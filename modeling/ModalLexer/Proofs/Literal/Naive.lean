import ModalLexer.Proofs.Literal.Mode
import ModalLexer.Proofs.Scan.Calls

/-! # A lexer of texts without patterns

Texts can be scanned for without any pattern: walk through them at each place, take the first that
is there, and do what its rule says (`Naive.next`).  A lexer whose rules match texts alone, however
nested and with whatever options, does just that (`Naive.scans_naively`). -/
set_option autoImplicit false
namespace ModalLexer

variable {σ : Type}

namespace Naive

/-- What is there at the place of a scanner that has not come to the end of the text. -/
def sees? (modes : List (Mode σ)) (s : Scanner) : Option (Leaf σ × Spot) :=
  if s.spot.rest = [] then none
  else (modes[s.active]?).bind fun mode => walk? mode.rules s.spot

def value (rule : Rule σ) (text : List Char) (state : σ) : Value × σ :=
  if rule.options.discard then (.nothing, state)
  else
    match rule.options.value with
    | none => (.text (.ofList text), state)
    | some fn => fn (.ofList text) (.positional []) state

def token (s : Scanner) (leaf : Leaf σ) (value : Value) : Token where
  kind := leaf.alternative.rule.name
  text := .ofList leaf.text
  value := value
  line := s.location.line
  col := s.location.col
  offset := s.offset
  lineBreaks := (s.location.advance leaf.text leaf.alternative.rule.options.lineBreaks).2
  isError := leaf.alternative.rule.options.error
  variant := leaf.alternative.variant

/-- Whether a text may not be consumed: it is empty, and its rule changes no mode or an empty text
was consumed in the same place. -/
def isStuck (s : Scanner) (leaf : Leaf σ) : Bool :=
  leaf.text = [] && (leaf.alternative.rule.options.transition = .none || s.stalled = some s.offset)

def moveBehind (s : Scanner) (leaf : Leaf σ) (stop : Spot) : Scanner :=
  { s with
    spot := stop
    location := (s.location.advance leaf.text leaf.alternative.rule.options.lineBreaks).1
    stalled := if leaf.text = [] then some s.offset else none }

/-- Changes the mode, unless one is to be resumed and none is suspended. -/
def enter? (modes : List (Mode σ)) (s : Scanner) : Transition → Option Scanner
  | .none => some s
  | .switchTo name =>
      (Lexer.modeNumber? modes name).map fun mode => { s with active := mode }
  | .push name =>
      (Lexer.modeNumber? modes name).map fun mode =>
        { s with active := mode, stack := s.active :: s.stack }
  | .pop =>
      match s.stack with
      | [] => none
      | mode :: rest => some { s with active := mode, stack := rest }

/-- Consumes at most `fuel` texts up to the next token. -/
def nextWithin (modes : List (Mode σ)) : Nat → Scanner → σ → Scanner.Item × Scanner × σ
  | 0, s, state => (.ok none, s, state)
  | fuel + 1, s, state =>
      if s.done then (.ok none, s, state)
      else
        match sees? modes s with
        | none => (.ok none, { s with done := true }, state)
        | some (leaf, stop) =>
            let rule := leaf.alternative.rule
            if isStuck s leaf then
              (.error (.emptyMatch rule.name s.location.line s.location.col),
                { s with done := true }, state)
            else
              let (value, after) := value rule leaf.text state
              match enter? modes (moveBehind s leaf stop) rule.options.transition with
              | none =>
                  (.error (.popOnEmptyStack rule.name s.location.line s.location.col),
                    { moveBehind s leaf stop with done := true }, after)
              | some t =>
                  if rule.options.discard then
                    nextWithin modes fuel { t with done := rule.options.error } after
                  else
                    (.ok (some (token s leaf value)), { t with done := rule.options.error }, after)

/-- The next token.  An empty text can be consumed in front of each character and at the end. -/
def next (modes : List (Mode σ)) (s : Scanner) (state : σ) : Scanner.Item × Scanner × σ :=
  nextWithin modes (2 * s.spot.rest.length + 2) s state

def drain (modes : List (Mode σ)) : Nat → Scanner → σ → List (Except ScanError Token) × Scanner × σ
  | 0, s, state => ([], s, state)
  | limit + 1, s, state =>
      match next modes s state with
      | (.ok none, t, after) => ([], t, after)
      | (.ok (some token), t, after) =>
          let (items, last) := drain modes limit t after
          (.ok token :: items, last)
      | (.error e, t, after) =>
          let (items, last) := drain modes limit t after
          (.error e :: items, last)

end Naive

/-! ## The lexer and its modes -/

def Mode.IsLiteral (m : Mode σ) : Prop :=
  ∀ rule ∈ m.rules, ∀ source ∈ rule.variants, source.isLiteral = true

theorem Rule.source_mem_of_alternatives {rule : Rule σ} {n : Nat} {sources : List Source}
    {a : Alternative σ} (member : a ∈ rule.alternatives n sources) : a.source ∈ sources := by
  induction sources generalizing n with
  | nil => cases member
  | cons source rest ih =>
      rcases List.mem_cons.1 member with rfl | later
      · exact List.mem_cons_self
      · exact List.mem_cons_of_mem source (ih later)

theorem Mode.IsLiteral.alternatives {m : Mode σ} (literal : m.IsLiteral) :
    ∀ a ∈ alternatives m.rules, a.source.isLiteral = true := by
  intro a member
  obtain ⟨rule, inRules, ofRule⟩ := List.mem_flatMap.1 member
  apply literal rule inRules
  exact rule.source_mem_of_alternatives ofRule

namespace Naive

variable {modes : List (Mode σ)} {l : Lexer σ} {s : Scanner} {f : Firing σ} {leaf : Leaf σ}
  {stop : Spot}

structure Shows (modes : List (Mode σ)) (s : Scanner) (leaf : Leaf σ) (stop : Spot) (f : Firing σ) :
    Prop where
  offset : f.offset = s.offset
  location : f.location = s.location
  stop : f.dispatch.extent.stop = stop
  chars : f.chars = leaf.text
  variant : f.dispatch.variant = leaf.alternative.variant
  groups : f.dispatch.slot.groups f.path = .positional []
  entry : ∃ resolve, f.entry.Follows resolve leaf.alternative.rule ∧
    ∀ name number, resolve name = some number → Lexer.modeNumber? modes name = some number

namespace Shows

variable (shows : Shows modes s leaf stop f)

include shows

theorem advance_eq :
    f.advance = s.location.advance leaf.text leaf.alternative.rule.options.lineBreaks := by
  obtain ⟨resolve, follows, -⟩ := shows.entry
  rw [Firing.advance, shows.location, shows.chars, follows.lineBreaks]

theorem moveBehind_eq : s.moveBehind f = moveBehind s leaf stop := by
  simp only [Scanner.moveBehind, moveBehind, shows.stop, shows.advance_eq, shows.chars,
    List.isEmpty_iff]

theorem value_eq (state : σ) : f.value state = value leaf.alternative.rule leaf.text state := by
  obtain ⟨resolve, follows, -⟩ := shows.entry
  have same := follows.value
  cases given : leaf.alternative.rule.options.value with
  | none =>
      rw [given] at same
      simp only [Firing.value, value, same, given, follows.discard, shows.chars]
  | some fn =>
      rw [given] at same
      simp only [Firing.value, value, same, given, follows.discard, shows.chars, shows.groups]

theorem token_eq (value : Value) : f.token value = token s leaf value := by
  obtain ⟨resolve, follows, -⟩ := shows.entry
  rw [Firing.token, token, follows.kind, follows.error, shows.chars, shows.location, shows.offset,
    shows.advance_eq, shows.variant]

theorem isStuck_eq : s.isStuck f = isStuck s leaf := by
  obtain ⟨resolve, follows, -⟩ := shows.entry
  rw [Bool.eq_iff_iff]
  simp [Scanner.isStuck, isStuck, shows.chars, ← Bool.not_eq_true, follows.transitions_iff]

theorem jump?_eq (t : Scanner) :
    t.jump? f.entry.jump = enter? modes t leaf.alternative.rule.options.transition := by
  obtain ⟨resolve, follows, resolves⟩ := shows.entry
  have resolved := CompiledMode.resolved_of_jump follows.jump
  generalize f.entry.jump = jump, leaf.alternative.rule.options.transition = way at resolved
  cases resolved with
  | stay => rfl
  | pop => rfl
  | switchTo found =>
      rw [enter?, resolves _ _ found]
      rfl
  | push found =>
      rw [enter?, resolves _ _ found]
      rfl

end Shows

section Literal

variable (compiled : Lexer.CompiledFrom modes l) (literal : ∀ m ∈ modes, m.IsLiteral)

include compiled literal

/-- A scanner comes to an end where no text is there, and meets the text that is there. -/
theorem sees?_cases (s : Scanner) (running : s.done = false) :
    (sees? modes s = none ∧ (s.spot.atEnd = true ∨ s.firing? l = none)) ∨
      ∃ leaf stop f, sees? modes s = some (leaf, stop) ∧ s.Meets l f ∧
        Shows modes s leaf stop f := by
  by_cases atEnd : s.spot.rest = []
  · left
    exact ⟨if_pos atEnd, .inl (List.isEmpty_iff.2 atEnd)⟩
  have more : s.spot.atEnd = false := List.isEmpty_eq_false_iff.2 atEnd
  rw [sees?, if_neg atEnd]
  rcases getElem?_of_forall₂ compiled.resolves s.active with ⟨none, missing⟩ | found
  · left
    rw [none, Scanner.firing?, missing]
    exact ⟨rfl, .inr rfl⟩
  obtain ⟨m, mode, inModes, active, resolve, made, resolves⟩ := found
  have texts := (literal m (List.mem_of_getElem? inModes)).alternatives
  rw [inModes, Option.bind_some]
  cases walked : walk? m.rules s.spot with
  | none =>
      left
      have nothing : s.firing? l = none := by
        simp only [Scanner.firing?, active, first?_of_walk?_none made texts walked]
      exact ⟨rfl, .inr nothing⟩
  | some seen =>
      obtain ⟨leaf, stop⟩ := seen
      right
      obtain ⟨path, d, finds⟩ := findsLeaf_of_walk? made texts walked
      have fires := Scanner.firing?_of_finds active finds.finds
      have shows : Shows modes s leaf stop ⟨d, path, s.offset, s.location⟩ :=
        { offset := rfl
          location := rfl
          stop := congrArg Extent.stop finds.extent
          chars := finds.chars
          variant := finds.variant
          groups := finds.groups
          entry := ⟨resolve, finds.entry, resolves⟩ }
      exact ⟨leaf, stop, _, rfl, ⟨running, more, fires⟩, shows⟩

theorem nextWithin_eq (fuel : Nat) (s : Scanner) (state : σ) :
    s.nextWithin l fuel state = nextWithin modes fuel s state := by
  induction fuel generalizing s state with
  | zero => rfl
  | succ fuel ih =>
      by_cases done : s.done = true
      · rw [Scanner.nextWithin, Scanner.turn_of_done done, nextWithin, if_pos done]
      have running := Bool.eq_false_iff.2 done
      rw [nextWithin, if_neg done]
      rcases sees?_cases compiled literal s running with ⟨unseen, ended⟩ | found
      · have turn := (Scanner.TurnCases.ended (.inr ended)).turn_eq
        rw [Scanner.nextWithin, turn, unseen]
        rfl
      obtain ⟨leaf, stop, f, seen, meets, shows⟩ := found
      obtain ⟨resolve, follows, -⟩ := shows.entry
      simp only [seen, ← shows.isStuck_eq, ← shows.value_eq, ← shows.moveBehind_eq,
        ← shows.jump?_eq, ← shows.token_eq, ← follows.kind, ← follows.discard, ← follows.error]
      by_cases stuck : s.isStuck f = true
      · have turn := (Scanner.TurnCases.stuck meets stuck).turn_eq
        simp only [Scanner.nextWithin, turn, if_pos stuck, shows.location, Scanner.halt]
      have free := Bool.eq_false_iff.2 stuck
      rw [if_neg stuck]
      cases jumped : (s.moveBehind f).jump? f.entry.jump with
      | none =>
          have turn := (Scanner.TurnCases.unbalanced meets free jumped).turn_eq
          simp only [Scanner.nextWithin, turn, shows.location, Scanner.halt]
      | some t =>
          have turn := (Scanner.TurnCases.consumed meets free jumped).turn_eq
          rw [Scanner.nextWithin, turn]
          simp only [ih]

/-- The fuel of both suffices: a call takes at most one turn more than twice the characters left. -/
theorem next_eq_next (s : Scanner) (state : σ) : s.next l state = next modes s state := by
  rw [next, ← nextWithin_eq compiled literal]
  obtain ⟨turns, call⟩ := Scanner.next_spec l s state
  have short := call.length_le
  have bound := s.measure_le_length
  exact (call.nextWithin_eq (by omega)).symm

theorem drain_eq_drain (limit : Nat) (s : Scanner) (state : σ) :
    s.drain l limit state = drain modes limit s state := by
  induction limit generalizing s state with
  | zero => rfl
  | succ limit ih =>
      have same := next_eq_next compiled literal s state
      cases call : next modes s state with
      | mk item behind =>
          obtain ⟨t, after⟩ := behind
          rw [call] at same
          match item with
          | .ok none => simp only [Scanner.drain, drain, same, call]
          | .ok (some token) => simp only [Scanner.drain, drain, same, call, ih]
          | .error e => simp only [Scanner.drain, drain, same, call, ih]

end Literal

/-- Let the rules of a lexer match texts alone.  In every state of a scanner a call for the next
token gives, and leaves behind, what walking through the texts does; and so do all calls, to the end
of the scan. -/
theorem scans_naively {modes : List (Mode σ)} {l : Lexer σ} (compiled : l.CompiledFrom modes)
    (literal : ∀ m ∈ modes, m.IsLiteral) (s : Scanner) (state : σ) :
    s.next l state = next modes s state ∧
      ∀ limit, s.drain l limit state = drain modes limit s state := by
  have all (limit : Nat) := drain_eq_drain compiled literal limit s state
  exact ⟨next_eq_next compiled literal s state, all⟩

/-- Sums of powers of one letter; a comment goes to the end of the line. -/
def sumModes : List (Mode Unit) :=
  [⟨"main", [(Rule.ofSource "power" (.oneOf [.literal "a^2", .oneOf [.literal "a"]])).wordBound,
      .ofSource "plus" (.keywords ["+", " "]), (Rule.literal "open" "# ").push "comment"]⟩,
    ⟨"comment", [(Rule.literal "close" "\n").pop.countLineBreaks,
      (Rule.ofSource "any" (.keywords ["a|b", "é", "("])).discard]⟩]

/-- Where a power ends inside a word, the letter alone may end at the edge of one. -/
theorem sumModes_walked : ∃ l, Lexer.ofModes sumModes = .ok l ∧ (∀ m ∈ sumModes, m.IsLiteral) ∧
    (∀ s, s.next l () = next sumModes s () ∧
      ∀ limit, s.drain l limit () = drain sumModes limit s ()) ∧
    (drain sumModes 9 (.start "a^2+a# é(a|b\n+a^2b".toList) ()).1.map (·.toOption.map Token.text) =
      [some "a^2", some "+", some "a", some "# ", some "\n", some "+", some "a"] := by
  obtain ⟨l, ok, -⟩ := exists_of_any (p := fun _ => true) (x := Lexer.ofModes sumModes) (by decide)
  have literal : ∀ m ∈ sumModes, m.IsLiteral := by
    unfold Mode.IsLiteral
    decide
  exact ⟨l, ok, literal, fun s => scans_naively (.modes ok) literal s (), by decide⟩

end Naive

end ModalLexer
