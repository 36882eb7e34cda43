import ModalLexer.Proofs.Mode.CatchAll
import ModalLexer.Proofs.Scan.Reachable
import ModalLexer.Proofs.Scan.Unmatched

/-! # Nothing is cut off silently

In a mode whose last rule catches all, some variant matches wherever a character is left.  If all modes
of a lexer are of that kind, then items are drawn up to the end of the text, or the last of them is an
error or a token of an error rule (`Scanner.drains_caught`).

What a match is dispatched to depends on the slots, so this takes that no variant lost groups that
was passed over in the place where scanning ended. -/
set_option autoImplicit false
namespace ModalLexer

variable {σ : Type}

/-- The last rule of the mode catches all.  No pattern turns verbose mode on, and no error rule is
discarded. -/
structure Mode.CatchesAll (m : Mode σ) : Prop where
  last : ∃ name, m.rules.getLast? = some (.catchAll name)
  plain : ∀ a ∈ alternatives m.rules, a.turnsVerbose = false
  apart : ∀ rule ∈ m.rules, rule.options.error = true → rule.options.discard = false

def Mode.caught (m : Mode σ) (name : String) : Mode σ := ⟨m.name, m.rules ++ [.catchAll name]⟩

namespace Mode

variable {m : Mode σ} {name : String}

theorem forall_alternatives_caught {p : Alternative σ → Prop}
    (each : ∀ a ∈ alternatives m.rules, p a) (own : p (catchAllVariant name)) :
    ∀ a ∈ alternatives (m.caught name).rules, p a := by
  intro a member
  have order := alternatives_append_catchAll m.rules name
  rw [caught, order, List.mem_append, List.mem_singleton] at member
  rcases member with given | rfl
  · exact each a given
  · exact own

theorem catchesAll_caught (plain : ∀ a ∈ alternatives m.rules, a.turnsVerbose = false)
    (apart : ∀ rule ∈ m.rules, rule.options.error = true → rule.options.discard = false) :
    (m.caught name).CatchesAll := by
  refine ⟨⟨name, List.getLast?_concat⟩, ?_, ?_⟩
  · exact forall_alternatives_caught plain (turnsVerbose_catchAllVariant name)
  · intro rule member isError
    rcases List.mem_append.1 member with given | own
    · exact apart rule given isError
    · rw [List.mem_singleton.1 own]
      rfl

end Mode

/-- An item behind which there is no other: an error, or a token of an error rule. -/
inductive Closing : Except ScanError Token → Prop
  | token {token : Token} (isError : token.isError = true) : Closing (.ok token)
  | error (e : ScanError) : Closing (.error e)

def Lexer.Apart (l : Lexer σ) : Prop :=
  ∀ mode ∈ l.modes, ∀ e ∈ mode.entries, e.error = true → e.discard = false

namespace Scanner

variable {modes : List (Mode σ)} {l : Lexer σ} {s t u : Scanner} {turn : Turn σ}
  {turns : List (Turn σ)} {text : List Char} {state after : σ}
  {items : List (Except ScanError Token)}

/-- Items were drawn up to the end of the text, or the last of them says that they were not. -/
def Closes (text : List Char) (items : List (Except ScanError Token)) (t : Scanner) : Prop :=
  t.offset = byteLength text ∨ ∃ item, items.getLast? = some item ∧ Closing item

theorem exists_closing_of_turn (apart : l.Apart) (step : s.turn l = (turn, t))
    (going : turn ≠ .ended) (done : t.done = true) (state : σ) :
    ∃ item, (turn.gives state).1 = [item] ∧ Closing item := by
  cases turn with
  | ended => exact absurd rfl going
  | stuck f => exact ⟨_, rfl, .error _⟩
  | unbalanced f => exact ⟨_, rfl, .error _⟩
  | consumed f =>
      obtain ⟨mode, inModes, inEntries⟩ := (meets_of_consumed step).entry_mem
      rw [done_of_consumed step] at done
      have kept := apart mode inModes f.entry inEntries done
      refine ⟨.ok (f.token (f.value state).1), ?_, .token done⟩
      simp only [Turn.gives, kept, Bool.false_eq_true, if_false]

theorem Trail.eq_nil_of_done (trail : Trail l s turns u) (going : .ended ∉ turns)
    (done : s.done = true) : turns = [] := by
  cases trail with
  | nil => rfl
  | cons step later =>
      rw [turn_of_done done] at step
      cases step
      exact absurd List.mem_cons_self going

/-- Turns that bring scanning to an end give an item last that says so. -/
theorem Trail.exists_closing (apart : l.Apart) (trail : Trail l s turns u) (going : .ended ∉ turns)
    (running : s.done = false) (done : u.done = true) (state : σ) :
    ∃ item, (gives state turns).1.getLast? = some item ∧ Closing item := by
  induction trail generalizing state with
  | nil s =>
      rw [running] at done
      cases done
  | @cons s v u turn turns step later ih =>
      rw [List.mem_cons, not_or] at going
      have before : turn ≠ .ended := Ne.symm going.1
      cases ended : v.done with
      | false =>
          obtain ⟨item, last, closing⟩ := ih going.2 ended done (turn.gives state).2
          refine ⟨item, ?_, closing⟩
          rw [gives_cons, List.getLast?_append, last, Option.some_or]
      | true =>
          obtain ⟨item, given, closing⟩ := exists_closing_of_turn apart step before ended state
          obtain rfl := later.eq_nil_of_done going.2 ended
          refine ⟨item, ?_, closing⟩
          rw [gives_cons, given]
          rfl

theorem apart_of_compiled (compiled : l.CompiledFrom modes) (caught : ∀ m ∈ modes, m.CatchesAll) :
    l.Apart := by
  intro mode inModes e inEntries isError
  obtain ⟨m, given, rule, inRules, resolve, follows⟩ := compiled.exists_rule inModes inEntries
  rw [follows.discard]
  apply (caught m given).apart rule inRules
  rw [← follows.error]
  exact isError

theorem Sound.exists_mode (compiled : l.CompiledFrom modes) (sound : s.Sound l text) :
    ∃ m, modes[s.active]? = some m := by
  have inside := sound.active
  rw [← compiled.resolves.length_eq] at inside
  exact ⟨_, List.getElem?_eq_getElem inside⟩

theorem Sound.offset_of_atEnd (sound : s.Sound l text) (atEnd : s.spot.atEnd = true) :
    s.offset = byteLength text := by
  rw [Spot.atEnd, List.isEmpty_iff] at atEnd
  rw [← sound.text_eq, byteLength_text, atEnd]
  rfl

/-- Before the end of the text a scanner finds a match. -/
theorem Sound.not_unmatched (sound : s.Sound l text) (compiled : l.CompiledFrom modes)
    (caught : ∀ m ∈ modes, m.CatchesAll)
    (keeps : ∀ m, modes[s.active]? = some m → ∀ a ∈ passedOver m.rules s.spot, a.KeepsGroups) :
    ¬ s.Unmatched l := by
  intro unmatched
  obtain ⟨m, active⟩ := sound.exists_mode compiled
  have catches := caught m (List.mem_of_getElem? active)
  obtain ⟨name, last⟩ := catches.last
  have nothing := unmatched.nothing
  rw [firing?_eq_none_iff compiled active catches.plain (keeps m active)] at nothing
  exact firstMatch?_ne_none last unmatched.more nothing

theorem Ends.closes (ends : Ends l s turns u t) (compiled : l.CompiledFrom modes)
    (caught : ∀ m ∈ modes, m.CatchesAll) (sound : s.Sound l text) (running : s.done = false)
    (keeps : ∀ m, modes[t.active]? = some m → ∀ a ∈ passedOver m.rules t.spot, a.KeepsGroups)
    (state : σ) : Closes text (gives state turns).1 t := by
  have sound' := ends.trail.sound compiled.built.closed sound
  obtain ⟨rfl, done | atEnd | unmatched⟩ := ended_cases ends.last
  · have apart := apart_of_compiled compiled caught
    exact .inr (ends.trail.exists_closing apart ends.going running done state)
  · exact .inl (sound'.offset_of_atEnd atEnd)
  · exact absurd unmatched (sound'.not_unmatched compiled caught keeps)

/-- Let the last rule of every mode catch all, let no pattern turn verbose mode on and no rule be both
an error and discarded.  From any state of a scanner that has not ended, items can be drawn until
there are no more.  If in the place and in the mode where that ends no variant that is passed over
has lost groups, then the place is the end of the text, or the last item is an error or a token of an
error rule; so a scanner that gives nothing at once has reached the end of the text. -/
theorem drains_caught {modes : List (Mode σ)} {l : Lexer σ} (compiled : l.CompiledFrom modes)
    (caught : ∀ m ∈ modes, m.CatchesAll) {text : List Char} {turns : List (Turn σ)} {s : Scanner}
    (reached : Reaches l text turns s) (running : s.done = false) (state : σ) :
    (∃ items t after, Drains l s state items t after) ∧
    ∀ items t after, Drains l s state items t after →
      (∀ m, modes[t.active]? = some m → ∀ a ∈ passedOver m.rules t.spot, a.KeepsGroups) →
        Closes text items t := by
  refine ⟨exists_drains l s state, ?_⟩
  intro items t after drains keeps
  have sound := reached.sound compiled.built.closed
  obtain ⟨turns, u, t', ends⟩ := exists_ends l s
  -- The items drawn are those of the turns, and the last turn shows why the scan ended.
  obtain ⟨rfl, rfl, -⟩ := drains.unique (ends.drains state)
  exact ends.closes compiled caught sound running keeps state

def caughtModes : List (Mode Unit) :=
  [(⟨"main", [.regex "word" "(a)+", (Rule.literal "open" "<").push "inner"]⟩ : Mode Unit).caught
      "other",
    (⟨"inner", [(Rule.literal "close" ">").pop, (Rule.regex "blank" "[ \\t]+").discard]⟩ :
      Mode Unit).caught "inside"]

theorem caughtModes_compile : ∃ l, Lexer.ofModes caughtModes = .ok l := by
  refine Lexer.exists_ofModes (List.cons_ne_nil _ _) (by decide) ?_
  simp only [caughtModes, List.forall_mem_cons, List.not_mem_nil]
  refine ⟨?_, ?_, nofun⟩
  · exact CompiledMode.exists_compile_catchAll (by decide) (by decide)
  · exact CompiledMode.exists_compile_catchAll (by decide) (by decide)

theorem caughtModes_catch : ∀ m ∈ caughtModes,
    m.CatchesAll ∧ ∀ a ∈ alternatives m.rules, a.KeepsGroups := by
  simp only [caughtModes, List.forall_mem_cons, List.not_mem_nil]
  refine ⟨⟨?_, ?_⟩, ⟨?_, ?_⟩, nofun⟩
  · exact Mode.catchesAll_caught (by decide) (by decide)
  · exact Mode.forall_alternatives_caught (by decide) (keepsGroups_catchAllVariant _)
  · exact Mode.catchesAll_caught (by decide) (by decide)
  · exact Mode.forall_alternatives_caught (by decide) (keepsGroups_catchAllVariant _)

/-- The third character is caught in the mode that the second one leads to. -/
theorem caughtModes_drains : ∃ l, Lexer.ofModes caughtModes = .ok l ∧ ∃ items t,
    Drains l (.start "a<!".toList) () items t () ∧ Closes "a<!".toList items t := by
  obtain ⟨l, ok⟩ := caughtModes_compile
  have caught : ∀ m ∈ caughtModes, m.CatchesAll := fun m member => (caughtModes_catch m member).1
  obtain ⟨⟨items, t, after, drains⟩, closes⟩ :=
    drains_caught (.modes ok) caught (.scan "a<!".toList) rfl ()
  refine ⟨l, ok, items, t, drains, closes items t after drains ?_⟩
  intro m active a member
  exact (caughtModes_catch m (List.mem_of_getElem? active)).2 a (mem_of_passedOver member)

def pairMode : Mode Unit := ⟨Lexer.main, [.regex "pair" "(a)(b){0}"]⟩

/-- Only the catch-all matches, but its slot begins one number before its wrapper: scanning ends before
the first character, without an item. -/
theorem pairMode_cutOff : ∃ l, Lexer.ofRules (pairMode.caught "error").rules = .ok l ∧
    (pairMode.caught "error").CatchesAll ∧
    ∃ t, Drains l (.start ['c']) () [] t () ∧ ¬ Closes ['c'] [] t := by
  have catches : (pairMode.caught "error").CatchesAll :=
    Mode.catchesAll_caught (by decide) (by decide)
  have joins : CompiledMode.joinsCatchAll Lexer.main (fun _ => none) pairMode.rules = true := by
    decide
  have fresh : "error" ∉ pairMode.rules.map Rule.name := by decide
  obtain ⟨mode, made⟩ := CompiledMode.exists_compile_catchAll joins fresh
  obtain ⟨l, ok⟩ := Lexer.exists_ofRules made
  have compiled : l.CompiledFrom [pairMode.caught "error"] := .rules ok
  have nothing : (Scanner.start ['c']).firing? l = none :=
    firing?_eq_none_of_lost compiled rfl catches.plain (alternatives_append_catchAll _ _)
      (by decide) (report?_catchAllVariant _ rfl) (by decide)
  have unmatched : (Scanner.start ['c']).Unmatched l := ⟨rfl, rfl, nothing⟩
  have ends : Ends l (.start ['c']) [] (.start ['c']) (Scanner.start ['c']).halt :=
    ⟨.nil _, List.not_mem_nil, unmatched.turn_eq⟩
  refine ⟨l, ok, catches, _, ends.drains (), ?_⟩
  rintro (whole | ⟨item, given, -⟩)
  · revert whole
    decide
  · cases given

end Scanner

end ModalLexer
