import ModalLexer.Proofs.Mode.Appended
import ModalLexer.Proofs.Scan.Unmatched

/-! # Scanning with further rules

Add rules to the modes of a lexer, behind all that are there.  A scanner then takes the turns it took
before, up to where no rule of the shorter lexer matches; if there is no such place, it gives the same
and ends in the same state (`Scanner.drains_appended`).  This takes that no variant lost groups that is
passed over where scanning ends.  If one has, a rule that matches is not found, but may be taken for
one of the further rules (`Scanner.groupRuleModes_drain`).

Value functions may have a state.  Both scans begin in the same one, and as long as they take the
same turns they change it in the same way. -/
set_option autoImplicit false
namespace ModalLexer

variable {σ : Type}

/-- A lexer whose modes find what those of another one do. -/
def Lexer.Extends (l l' : Lexer σ) : Prop :=
  ∀ (i : Nat) (c : CompiledMode σ), l.modes[i]? = some c →
    ∃ c', l'.modes[i]? = some c' ∧ c.Extends c'

theorem CompiledMode.Extends.finds {c c' : CompiledMode σ} (grown : c.Extends c') {s : Spot}
    {path : Path} {d : Dispatch σ} (finds : c.Finds s path d) : c'.Finds s path d := by
  obtain ⟨more, entries⟩ := grown.entries
  refine ⟨grown.first s path finds.first, ?_⟩
  rw [entries]
  exact dispatch?_append finds.dispatched more

namespace Scanner

variable {modes modes' : List (Mode σ)} {l l' : Lexer σ} {s t u : Scanner} {turn : Turn σ}
  {turns : List (Turn σ)} {f : Firing σ}

section Extends

variable (longer : l.Extends l')

include longer

theorem Meets.extends (meets : s.Meets l f) : s.Meets l' f := by
  obtain ⟨c, active, finds, offset, location⟩ := firing?_cases meets.found
  obtain ⟨c', active', grown⟩ := longer s.active c active
  refine ⟨meets.running, meets.more, ?_⟩
  rw [firing?_of_finds active' (grown.finds finds), ← offset, ← location]

theorem turn_extends (step : s.turn l = (turn, t)) (met : ¬ s.Unmatched l) :
    s.turn l' = (turn, t) := by
  cases turn_cases step with
  | ended finished =>
      obtain ⟨-, done | atEnd | unmatched⟩ := ended_cases step
      · exact (TurnCases.ended (.inl done)).turn_eq
      · exact (TurnCases.ended (.inr (.inl atEnd))).turn_eq
      · exact absurd unmatched met
  | stuck meets stuck => exact (TurnCases.stuck (meets.extends longer) stuck).turn_eq
  | unbalanced meets free jumped =>
      exact (TurnCases.unbalanced (meets.extends longer) free jumped).turn_eq
  | consumed meets free jumped =>
      exact (TurnCases.consumed (meets.extends longer) free jumped).turn_eq

theorem Trail.extends (trail : Trail l s turns u) (going : .ended ∉ turns) :
    Trail l' s turns u := by
  induction trail with
  | nil s => exact .nil s
  | @cons s t u turn turns step later ih =>
      rw [List.mem_cons, not_or] at going
      refine .cons (turn_extends longer step ?_) (ih going.2)
      intro unmatched
      rw [unmatched.turn_eq] at step
      exact going.1 (Prod.mk.inj step).1

/-- Where the shorter lexer ends, the longer one goes on. -/
theorem Ends.drains_onward (ends : Ends l s turns u t) (state : σ) : ∃ more t' after',
    Drains l' u (gives state turns).2 more t' after' ∧
      Drains l' s state ((gives state turns).1 ++ more) t' after' := by
  obtain ⟨more, t', after', drains⟩ := exists_drains l' u (gives state turns).2
  have trail := ends.trail.extends longer ends.going
  exact ⟨more, t', after', drains, trail.drains_behind ends.going drains⟩

theorem Ends.extends (ends : Ends l s turns u t) (met : ¬ u.Unmatched l) :
    Ends l' s turns u t :=
  ⟨ends.trail.extends longer ends.going, ends.going, turn_extends longer ends.last met⟩

end Extends

theorem plain_of_appended (appended : List.Forall₂ Mode.Appends modes modes')
    (plain : ∀ m ∈ modes', ∀ a ∈ alternatives m.rules, a.turnsVerbose = false) :
    ∀ m ∈ modes, ∀ a ∈ alternatives m.rules, a.turnsVerbose = false := by
  intro m member a inRules
  obtain ⟨m', inModes, -, more, rules⟩ := exists_of_forall₂_left appended member
  apply plain m' inModes
  rw [rules, alternatives, List.flatMap_append]
  exact List.mem_append_left _ inRules

/-- Let the modes of two lexers differ in that those of the second have further rules behind all
others, and let no fragment turn verbose mode on.  Whatever state a scanner is in, it takes turns of
the first lexer to where it ends.  If it ends there because no variant of its mode matches, the second
lexer gives the same items and then those that it finds from there on.  Otherwise, be it the end of the
text, an error rule or a failure, the second lexer gives the same items and ends in the same state,
provided that those variants keep their groups that are passed over there. -/
theorem drains_appended {modes modes' : List (Mode σ)} {l l' : Lexer σ}
    (compiled : l.CompiledFrom modes) (compiled' : l'.CompiledFrom modes')
    (appended : List.Forall₂ Mode.Appends modes modes')
    (plain : ∀ m ∈ modes', ∀ a ∈ alternatives m.rules, a.turnsVerbose = false) (s : Scanner)
    (state : σ) : ∃ turns u t items after,
      Ends l s turns u t ∧ Drains l s state items t after ∧
      (u.Silent modes → ∃ more t' after', Drains l' u after more t' after' ∧
        Drains l' s state (items ++ more) t' after') ∧
      (¬ u.Silent modes →
        (∀ m, modes[u.active]? = some m → ∀ a ∈ passedOver m.rules u.spot, a.KeepsGroups) →
          Drains l' s state items t after) := by
  have longer : l.Extends l' := fun i c => compiled.exists_extends compiled' appended plain
  have plain' := plain_of_appended appended plain
  obtain ⟨turns, u, t, ends⟩ := exists_ends l s
  refine ⟨turns, u, t, (gives state turns).1, (gives state turns).2, ends, ends.drains state,
    ?_, ?_⟩
  · intro _
    exact ends.drains_onward longer state
  · intro met keeps
    -- With the groups kept, the scanner only finds nothing where no variant matches.
    have found : ¬ u.Unmatched l := fun unmatched =>
      met (unmatched.silent compiled plain' keeps)
    exact (ends.extends longer found).drains state

def fewModes : List (Mode Unit) :=
  [⟨"main", [.regex "word" "(a)+", (Rule.literal "open" "<").push "inner"]⟩,
    ⟨"inner", [(Rule.literal "close" ">").pop]⟩]

def moreModes : List (Mode Unit) :=
  [⟨"main", [.regex "word" "(a)+", (Rule.literal "open" "<").push "inner", .regex "digit" "[0-9]",
      .regex "any" "(a|<)(>?)"]⟩,
    ⟨"inner", [(Rule.literal "close" ">").pop, (Rule.literal "blank" " ").discard]⟩]

theorem moreModes_appends : List.Forall₂ Mode.Appends fewModes moreModes :=
  .cons ⟨rfl, _, rfl⟩ (.cons ⟨rfl, _, rfl⟩ .nil)

/-- Three items are given up to the digit, and two more from there on. -/
theorem moreModes_drains : ∃ l l', Lexer.ofModes fewModes = .ok l ∧
    Lexer.ofModes moreModes = .ok l' ∧ ∃ turns u t items more t',
      Ends l (.start "a<>1a".toList) turns u t ∧
      Drains l (.start "a<>1a".toList) () items t () ∧ u.Silent fewModes ∧
      Drains l' u () more t' () ∧ Drains l' (.start "a<>1a".toList) () (items ++ more) t' () ∧
      items.length = 3 ∧ more.length = 2 := by
  obtain ⟨l, ok, three⟩ := exists_of_any (x := Lexer.ofModes fewModes)
    (p := fun l => ((Scanner.start "a<>1a".toList).drain l 11 ()).1.length = 3) (by decide)
  obtain ⟨l', ok', five⟩ := exists_of_any (x := Lexer.ofModes moreModes)
    (p := fun l => ((Scanner.start "a<>1a".toList).drain l 11 ()).1.length = 5) (by decide)
  obtain ⟨turns, u, t, items, _, ends, drains, further, same⟩ :=
    drains_appended (.modes ok) (.modes ok') moreModes_appends (by decide)
      (.start "a<>1a".toList) ()
  have keeps : ∀ m ∈ fewModes, ∀ a ∈ alternatives m.rules, a.KeepsGroups := by decide
  have short : 2 * (Scanner.start "a<>1a".toList).left < 11 := by decide
  simp only [drains.drain_eq (Nat.lt_of_le_of_lt drains.length_le short), decide_eq_true_eq]
    at three
  have silent : u.Silent fewModes := by
    by_contra met
    have drains' := same met fun m active a member =>
      keeps m (List.mem_of_getElem? active) a (mem_of_passedOver member)
    simp only [drains'.drain_eq (Nat.lt_of_le_of_lt drains'.length_le short), decide_eq_true_eq]
      at five
    omega
  obtain ⟨more, t', _, there, drains'⟩ := further silent
  simp only [drains'.drain_eq (Nat.lt_of_le_of_lt drains'.length_le short), decide_eq_true_eq,
    List.length_append] at five
  exact ⟨l, l', ok, ok', turns, u, t, items, more, t', ends, drains, silent, there, drains',
    three, by omega⟩

def lostRuleModes : List (Mode Unit) := [⟨"main", [.regex "pair" "(a)(b){0}", .regex "c" "c"]⟩]

def groupRuleModes : List (Mode Unit) :=
  [⟨"main", [.regex "pair" "(a)(b){0}", .regex "c" "c", .regex "d" "x(y)"]⟩]

/-- The second rule matches and is not found.  With the third one behind it, it is taken for that
one. -/
theorem groupRuleModes_drain : ∃ l l', Lexer.ofModes lostRuleModes = .ok l ∧
    Lexer.ofModes groupRuleModes = .ok l' ∧
    List.Forall₂ Mode.Appends lostRuleModes groupRuleModes ∧
    (∀ m ∈ groupRuleModes, ∀ a ∈ alternatives m.rules, a.turnsVerbose = false) ∧
    (∃ t, Drains l (.start ['c']) () [] t () ∧ t.offset = 0 ∧ t.active = 0) ∧
    ¬ (Scanner.start ['c']).Silent lostRuleModes ∧
    ∃ item t', Drains l' (.start ['c']) () [item] t' () ∧
      item.toOption.map Token.kind = some "d" := by
  obtain ⟨l, ok, nothing⟩ := exists_of_any (x := Lexer.ofModes lostRuleModes)
    (p := fun l =>
      let (items, t, _) := (Scanner.start ['c']).drain l 3 ()
      items.length = 0 && (t.offset = 0 && t.active = 0)) (by decide)
  obtain ⟨l', ok', taken⟩ := exists_of_any (x := Lexer.ofModes groupRuleModes)
    (p := fun l =>
      ((Scanner.start ['c']).drain l 3 ()).1.map (·.toOption.map Token.kind) = [some "d"])
    (by decide)
  obtain ⟨items, t, after, drains⟩ := exists_drains l (.start ['c']) ()
  obtain ⟨items', t', after', drains'⟩ := exists_drains l' (.start ['c']) ()
  have short : 2 * (Scanner.start ['c']).left < 3 := by decide
  rw [drains.drain_eq (Nat.lt_of_le_of_lt drains.length_le short)] at nothing
  rw [drains'.drain_eq (Nat.lt_of_le_of_lt drains'.length_le short)] at taken
  simp only [Bool.and_eq_true, decide_eq_true_eq, List.length_eq_zero_iff] at nothing
  obtain ⟨rfl, place⟩ := nothing
  obtain ⟨item, rfl, kind⟩ := List.map_eq_singleton_iff.1 (of_decide_eq_true taken)
  refine ⟨l, l', ok, ok', .cons ⟨rfl, _, rfl⟩ .nil, by decide, ⟨t, drains, place⟩, ?_, item, t', drains', kind⟩
  intro silent
  have found : ∀ m ∈ lostRuleModes, firstMatch? m.rules (.start ['c']) ≠ none := by decide
  exact found _ List.mem_cons_self (silent.nothing _ rfl)

end Scanner

end ModalLexer
