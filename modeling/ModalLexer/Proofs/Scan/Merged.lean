import ModalLexer.Proofs.Mode.Merged
import ModalLexer.Proofs.Scan.Items

/-! # Variants and one choice of them give the same tokens

Two lexers fire alike on a text if both find the same stretches in it, by rules that do the same with
them.  A scanner takes alike turns with both, then, and what they give differs in variants and values
alone (`Scanner.drains_alike`).  The lexers of rules that try their variants in order and of rules whose
one variant is the choice of them do fire alike (`Scanner.drains_merged`). -/
set_option autoImplicit false
namespace ModalLexer

variable {σ : Type}

/-- Entries that do the same with a match, but for its value. -/
structure Entry.Alike (e e' : Entry σ) : Prop where
  kind : e'.kind = e.kind
  discard : e'.discard = e.discard
  error : e'.error = e.error
  lineBreaks : e'.lineBreaks = e.lineBreaks
  jump : e'.jump = e.jump

def Token.bare (t : Token) : Token := { t with value := .nothing, variant := 0 }

/-- Matches of the same stretch, found in the same place, by rules that do the same. -/
structure Firing.Alike (f f' : Firing σ) : Prop where
  entry : f.entry.Alike f'.entry
  extent : f'.dispatch.extent = f.dispatch.extent
  offset : f'.offset = f.offset
  location : f'.location = f.location

inductive Turn.Alike : Turn σ → Turn σ → Prop
  | ended : Alike .ended .ended
  | stuck {f f' : Firing σ} (same : f.Alike f') : Alike (.stuck f) (.stuck f')
  | unbalanced {f f' : Firing σ} (same : f.Alike f') : Alike (.unbalanced f) (.unbalanced f')
  | consumed {f f' : Firing σ} (same : f.Alike f') : Alike (.consumed f) (.consumed f')

/-- The lexers find alike matches wherever a scanner stands in a text. -/
def Lexer.FiresAlike (l l' : Lexer σ) (text : List Char) : Prop :=
  ∀ s : Scanner, s.text = text → Option.Rel Firing.Alike (s.firing? l) (s.firing? l')

namespace Firing.Alike

variable {f f' : Firing σ} (alike : f.Alike f')

include alike

theorem chars : f'.chars = f.chars := congrArg Extent.text alike.extent

theorem advance : f'.advance = f.advance := by
  rw [Firing.advance, Firing.advance, alike.chars, alike.location, alike.entry.lineBreaks]

theorem bare_token (value value' : Value) : (f'.token value').bare = (f.token value).bare := by
  simp only [token, Token.bare, alike.entry.kind, alike.entry.error, alike.chars, alike.advance,
    alike.offset, alike.location]

end Firing.Alike

/-- What alike turns give differs in variants and values alone. -/
theorem Turn.Alike.gives {turn turn' : Turn σ} (alike : turn.Alike turn') (state state' : σ) :
    (turn'.gives state').1.map (Except.map Token.bare) =
      (turn.gives state).1.map (Except.map Token.bare) := by
  cases alike with
  | ended => rfl
  | stuck same | unbalanced same =>
      simp only [Turn.gives, same.entry.kind, same.location]
  | consumed same =>
      simp only [Turn.gives, same.entry.discard]
      split
      · rfl
      · exact congrArg (fun token => [Except.ok token]) (same.bare_token _ _)

theorem gives_alike {turns turns' : List (Turn σ)} (alike : List.Forall₂ Turn.Alike turns turns')
    (state state' : σ) : (gives state' turns').1.map (Except.map Token.bare) =
      (gives state turns).1.map (Except.map Token.bare) := by
  induction alike generalizing state state' with
  | nil => rfl
  | cons first _ ih =>
      rw [gives_cons, gives_cons, List.map_append, List.map_append, first.gives, ih]

namespace Scanner

variable {l l' : Lexer σ} {s t u : Scanner} {f f' : Firing σ} {turn : Turn σ}
  {turns : List (Turn σ)}

theorem moveBehind_alike (alike : f.Alike f') : s.moveBehind f' = s.moveBehind f := by
  rw [moveBehind, moveBehind, alike.extent, alike.advance, alike.chars]

theorem isStuck_alike (alike : f.Alike f') : s.isStuck f' = s.isStuck f := by
  rw [isStuck, isStuck, alike.chars, Entry.transitions, Entry.transitions, alike.entry.jump]

theorem turn_alike (fires : Option.Rel Firing.Alike (s.firing? l) (s.firing? l'))
    (step : s.turn l = (turn, t)) : ∃ turn', s.turn l' = (turn', t) ∧ turn.Alike turn' := by
  have meets {f : Firing σ} (meets : s.Meets l f) : ∃ f', s.Meets l' f' ∧ f.Alike f' := by
    rw [meets.found] at fires
    cases found : s.firing? l' with
    | none =>
        rw [found] at fires
        cases fires
    | some f' =>
        rw [found] at fires
        cases fires with
        | some alike => exact ⟨f', ⟨meets.running, meets.more, found⟩, alike⟩
  cases turn_cases step with
  | ended finished =>
      have finished' : s.done = true ∨ s.spot.atEnd = true ∨ s.firing? l' = none := by
        refine finished.imp_right (Or.imp_right fun nothing => ?_)
        rw [nothing] at fires
        cases found : s.firing? l' with
        | none => rfl
        | some f' =>
            rw [found] at fires
            cases fires
      exact ⟨_, (TurnCases.ended finished').turn_eq, .ended⟩
  | stuck met stuck =>
      obtain ⟨f', met', alike⟩ := meets met
      rw [← isStuck_alike alike] at stuck
      exact ⟨_, (TurnCases.stuck met' stuck).turn_eq, .stuck alike⟩
  | unbalanced met free jumped =>
      obtain ⟨f', met', alike⟩ := meets met
      rw [← isStuck_alike alike] at free
      rw [← moveBehind_alike alike, ← alike.entry.jump] at jumped
      rw [← moveBehind_alike alike]
      exact ⟨_, (TurnCases.unbalanced met' free jumped).turn_eq, .unbalanced alike⟩
  | consumed met free jumped =>
      obtain ⟨f', met', alike⟩ := meets met
      rw [← isStuck_alike alike] at free
      rw [← moveBehind_alike alike, ← alike.entry.jump] at jumped
      rw [← alike.entry.error]
      exact ⟨_, (TurnCases.consumed met' free jumped).turn_eq, .consumed alike⟩

theorem text_of_turn (step : s.turn l = (turn, t)) : t.text = s.text := by
  cases turn_cases step with
  | ended finished => rfl
  | stuck meets stuck => rfl
  | unbalanced meets free jumped => exact meets.text_moveBehind
  | consumed meets free jumped =>
      exact (congrArg Spot.text (jump?_frame jumped).1).trans meets.text_moveBehind

theorem Ends.alike (ends : Ends l s turns u t) (fires : l.FiresAlike l' s.text) :
    ∃ turns', Ends l' s turns' u t ∧ List.Forall₂ Turn.Alike turns turns' := by
  obtain ⟨trail, going, last⟩ := ends
  induction trail with
  | nil s =>
      obtain ⟨turn', last', alike⟩ := turn_alike (fires s rfl) last
      cases alike
      exact ⟨[], ⟨.nil s, List.not_mem_nil, last'⟩, .nil⟩
  | @cons s v u turn turns step later ih =>
      rw [List.mem_cons, not_or] at going
      obtain ⟨turn', step', alike⟩ := turn_alike (fires s rfl) step
      obtain ⟨turns', ends', rest⟩ := ih (text_of_turn step ▸ fires) going.2 last
      refine ⟨turn' :: turns', ends'.cons step' fun ended => ?_, .cons alike rest⟩
      subst ended
      cases alike
      exact going.1 rfl

/-- With lexers that fire alike on its text, a scanner comes to the same state, and what is drawn from
it differs in variants and values alone. -/
theorem drains_alike (fires : l.FiresAlike l' s.text) (state state' : σ) :
    ∃ items items' t after after', Drains l s state items t after ∧
      Drains l' s state' items' t after' ∧
      items'.map (Except.map Token.bare) = items.map (Except.map Token.bare) := by
  obtain ⟨turns, u, t, ends⟩ := exists_ends l s
  obtain ⟨turns', ends', alike⟩ := ends.alike fires
  exact ⟨_, _, t, _, _, ends.drains state, ends'.drains state', gives_alike alike state state'⟩

end Scanner

/-! ## Rules with one variant -/

theorem Entry.Alike.of_follows {resolve resolve' : String → Option Nat} {rule rule' : Rule σ}
    {e e' : Entry σ} (follows : e.Follows resolve rule) (follows' : e'.Follows resolve' rule')
    (name : rule'.name = rule.name) (options : rule'.options = rule.options)
    (agree : CompiledMode.Agree resolve resolve') : e.Alike e' := by
  obtain ⟨kind, discard, error, lineBreaks, -, jump⟩ := follows
  obtain ⟨kind', discard', error', lineBreaks', -, jump'⟩ := follows'
  rw [options] at discard' error' lineBreaks'
  have way := CompiledMode.resolved_of_jump jump'
  rw [options] at way
  refine ⟨kind'.trans (name.trans kind.symm), discard'.trans discard.symm,
    error'.trans error.symm, lineBreaks'.trans lineBreaks.symm, ?_⟩
  exact ((CompiledMode.resolved_of_jump jump).unique agree way).symm

namespace Lexer

def mergeModes (chosen : String → String → Bool) (modes : List (Mode σ)) : List (Mode σ) :=
  modes.map fun m => m.merge (chosen m.name)

theorem modeNumber?_mergeModes (chosen : String → String → Bool) (modes : List (Mode σ)) :
    modeNumber? (mergeModes chosen modes) = modeNumber? modes :=
  modeNumber?_map (fun m => m.name_merge (chosen m.name)) modes

variable {modes : List (Mode σ)} {l l' : Lexer σ} {chosen : String → String → Bool}

/-- Wherever what variants begin with in common can be matched in one way at most, a mode finds the
same if they are made one. -/
theorem Resolves.finds_alike {m : Mode σ} {mode mode' : CompiledMode σ} {s : Spot}
    (made : Resolves modes m mode)
    (made' : Resolves (mergeModes chosen modes) (m.merge (chosen m.name)) mode')
    (plain : ∀ a ∈ alternatives m.rules, a.source.scopesFlags = true ∧ a.KeepsGroups)
    (oneWay : ∀ rule ∈ m.rules, chosen m.name rule.name = true → rule.SharesOneWay s) :
    ((∀ path d, ¬ mode.Finds s path d) ∧ ∀ path d, ¬ mode'.Finds s path d) ∨
      ∃ path d path' d', mode.Finds s path d ∧ mode'.Finds s path' d' ∧
        d.entry.Alike d'.entry ∧ d'.extent = d.extent := by
  obtain ⟨resolve, ok, known⟩ := made
  obtain ⟨resolve', ok', known'⟩ := made'
  have agree : CompiledMode.Agree resolve resolve' := by
    intro name i i' found found'
    have number' := known' name i' found'
    rw [modeNumber?_mergeModes, known name i found] at number'
    exact Option.some.inj number'
  obtain ⟨rows, compiled⟩ := compile_rows ok
  obtain ⟨rows', compiled'⟩ := compile_rows ok'
  have plain' := compiled.plain_merge compiled' plain
  have separate := compiled.separate_of_scopesFlags fun a member => (plain a member).1
  have separate' := compiled'.separate_of_scopesFlags fun a member => (plain' a member).1
  have first := compiled.firstRule?_merge compiled' plain oneWay
  have cases' := separate'.finds_cases ok' (fun a member => (plain' a member).2) s
  rcases separate.finds_cases ok (fun a member => (plain a member).2) s with
    ⟨nothing, unfound⟩ | ⟨path, d, rule, finds, found, follows⟩
  · rw [nothing, Option.map_none] at first
    rcases cases' with ⟨-, unfound'⟩ | ⟨path', d', rule', -, found', -⟩
    · exact .inl ⟨unfound, unfound'⟩
    · cases first.symm.trans found'
  · rw [found, Option.map_some] at first
    rcases cases' with ⟨nothing', -⟩ | ⟨path', d', rule', finds', found', follows'⟩
    · cases first.symm.trans nothing'
    · obtain ⟨rfl, extent⟩ := Prod.mk.inj (Option.some.inj (first.symm.trans found'))
      refine .inr ⟨path, d, path', d', finds, finds', ?_, extent.symm⟩
      exact .of_follows follows follows' (rule.name_merge _) (rule.options_merge _) agree

theorem firesAlike_mergeModes {text : List Char} (compiled : CompiledFrom modes l)
    (compiled' : CompiledFrom (mergeModes chosen modes) l')
    (plain : ∀ m ∈ modes, ∀ a ∈ alternatives m.rules,
      a.source.scopesFlags = true ∧ a.KeepsGroups)
    (oneWay : ∀ m ∈ modes, ∀ rule ∈ m.rules, chosen m.name rule.name = true →
      ∀ spot : Spot, spot.text = text → rule.SharesOneWay spot) : l.FiresAlike l' text := by
  intro s inText
  rcases getElem?_of_forall₂ compiled.resolves s.active with
    ⟨noMode, missing⟩ | ⟨m, mode, given, active, made⟩
  · have missing' : l'.modes[s.active]? = none := by
      rcases getElem?_of_forall₂ compiled'.resolves s.active with
        ⟨-, missing'⟩ | ⟨m, mode, given, -, -⟩
      · exact missing'
      · rw [mergeModes, List.getElem?_map, noMode] at given
        cases given
    rw [Scanner.firing?, Scanner.firing?, missing, missing']
    exact .none
  · have given' : (mergeModes chosen modes)[s.active]? = some (m.merge (chosen m.name)) := by
      rw [mergeModes, List.getElem?_map, given]
      rfl
    obtain ⟨mode', active', made'⟩ := exists_getElem?_of_forall₂ compiled'.resolves given'
    have inModes := List.mem_of_getElem? given
    rcases made.finds_alike made' (plain m inModes) fun rule inRules isChosen =>
        oneWay m inModes rule inRules isChosen s.spot inText with
      ⟨unfound, unfound'⟩ | ⟨path, d, path', d', finds, finds', entries, extent⟩
    · rw [Scanner.firing?_of_not_finds active unfound, Scanner.firing?_of_not_finds active' unfound']
      exact .none
    · rw [Scanner.firing?_of_finds active finds, Scanner.firing?_of_finds active' finds']
      exact .some ⟨entries, extent, rfl, rfl⟩

end Lexer

/-- Two lexers were compiled, of some modes and of the same modes with one variant, the choice of those
that were there before, in each of some chosen rules.  No pattern uses the verbose flag or sets flags
but for a group, and all variants keep their groups.  Wherever in the text what the variants of a
chosen rule begin with in common, one by one or all together, it can be matched in one way at most.

Then a scanner comes to the same state with both lexers, from whatever state it was in, and what is
drawn from it is the same item by item: the same errors, and tokens that differ in variants and values
alone. -/
theorem Scanner.drains_merged {modes : List (Mode σ)} {l l' : Lexer σ}
    (chosen : String → String → Bool) (compiled : l.CompiledFrom modes)
    (compiled' : l'.CompiledFrom (Lexer.mergeModes chosen modes))
    (plain : ∀ m ∈ modes, ∀ a ∈ alternatives m.rules,
      a.source.scopesFlags = true ∧ a.KeepsGroups) (s : Scanner)
    (oneWay : ∀ m ∈ modes, ∀ rule ∈ m.rules, chosen m.name rule.name = true →
      ∀ spot : Spot, spot.text = s.text → rule.SharesOneWay spot) (state state' : σ) :
    ∃ items items' t after after', Drains l s state items t after ∧
      Drains l' s state' items' t after' ∧
      items'.map (Except.map Token.bare) = items.map (Except.map Token.bare) :=
  drains_alike (Lexer.firesAlike_mergeModes compiled compiled' plain oneWay) state state'

theorem Spot.exists_of_text {spot : Spot} {text : List Char} (inText : spot.text = text) :
    ∃ n < text.length + 1, spot = .mkAt (text.take n).reverse (text.drop n) := by
  subst inText
  have before : spot.past.reverse.length = spot.past.length := List.length_reverse
  refine ⟨spot.past.length, ?_, Spot.ext_of ?_ ?_⟩
  · rw [Spot.text, List.length_append, before]
    omega
  · rw [Spot.mkAt, Spot.text, List.take_left' before, List.reverse_reverse]
  · rw [Spot.mkAt, Spot.text, List.drop_left' before]

def pairModes : List (Mode Unit) :=
  [⟨"main", [(Rule.ofVariants "pair" [.regex "[ab]x", .regex "[ab](y)?"]).wordBound,
      (Rule.literal "open" "<").push "inner"]⟩,
    ⟨"inner", [.ofVariants "pair" [.literal "c", .regex "(?i-u:d)"]]⟩]

/-- The pairs outside brackets are made one variant, and those inside are not. -/
theorem pairModes_drains : ∃ l l', Lexer.ofModes pairModes = .ok l ∧
    Lexer.ofModes (Lexer.mergeModes (fun mode name => mode = "main" && name = "pair") pairModes) =
      .ok l' ∧
    ∃ items items' t after after', Scanner.Drains l (.start "by<D".toList) () items t after ∧
      Scanner.Drains l' (.start "by<D".toList) () items' t after' ∧
      items'.map (Except.map Token.bare) = items.map (Except.map Token.bare) := by
  let chosen : String → String → Bool := fun mode name => mode = "main" && name = "pair"
  obtain ⟨l, ok, -⟩ := exists_of_any (p := fun _ => true) (x := Lexer.ofModes pairModes) (by decide)
  obtain ⟨l', ok', -⟩ := exists_of_any (p := fun _ => true)
    (x := Lexer.ofModes (Lexer.mergeModes chosen pairModes)) (by decide)
  have places : ∀ n < "by<D".toList.length + 1, ∀ m ∈ pairModes, ∀ rule ∈ m.rules,
      chosen m.name rule.name = true →
        rule.SharesOneWay (.mkAt ("by<D".toList.take n).reverse ("by<D".toList.drop n)) := by decide
  refine ⟨l, l', ok, ok', Scanner.drains_merged chosen (.modes ok) (.modes ok') (by decide)
    (.start "by<D".toList) (fun m inModes rule inRules isChosen spot inText => ?_) () ()⟩
  obtain ⟨n, within, rfl⟩ := Spot.exists_of_text inText
  exact places n within m inModes rule inRules isChosen

def lostVariantModes : List (Mode Unit) :=
  [⟨"main", [.ofVariants "pair" [.regex "(a)(b){0}", .regex "c"]]⟩]

/-- The second variant does not match behind the first, but it does as an alternative. -/
theorem lostVariantModes_drain : ∃ l l', Lexer.ofModes lostVariantModes = .ok l ∧
    Lexer.ofModes (Lexer.mergeModes (fun _ _ => true) lostVariantModes) = .ok l' ∧
    (∀ m ∈ lostVariantModes, ∀ a ∈ alternatives m.rules, a.source.scopesFlags = true) ∧
    ((Scanner.start ['c']).drain l 2 ()).1.length = 0 ∧
    ((Scanner.start ['c']).drain l' 2 ()).1.length = 1 := by
  obtain ⟨l, ok, none⟩ := exists_of_any (x := Lexer.ofModes lostVariantModes)
    (p := fun l => ((Scanner.start ['c']).drain l 2 ()).1.length = 0) (by decide)
  obtain ⟨l', ok', one⟩ := exists_of_any
    (x := Lexer.ofModes (Lexer.mergeModes (fun _ _ => true) lostVariantModes))
    (p := fun l => ((Scanner.start ['c']).drain l 2 ()).1.length = 1) (by decide)
  exact ⟨l, l', ok, ok', by decide, of_decide_eq_true none, of_decide_eq_true one⟩

end ModalLexer
