import ModalLexer.Proofs.Mode.Entries
import ModalLexer.Proofs.Pattern.Reach
import ModalLexer.Scan.Scanner

/-! # One turn of a scanner

`Scanner.turn_cases` says all that a turn can come to.  A turn that consumes a match moves on in
the text or leaves a mark that no second empty match is consumed there, and so it lowers
`Scanner.measure` (`Scanner.measure_of_consumed`); any other turn is the last one. -/
set_option autoImplicit false
namespace ModalLexer

variable {σ : Type}

theorem CompiledMode.group?_of_dispatch? {p : Path} {entries : List (Entry σ)} {d : Dispatch σ}
    (found : dispatch? p entries = some d) : p.group? d.slot.start = some d.extent := by
  rw [dispatch?_eq] at found
  obtain ⟨t, -, hit⟩ := List.exists_of_findSome?_eq_some found
  obtain ⟨extent, group, rfl⟩ := Option.map_eq_some_iff.1 hit
  exact group

theorem length_le_byteLength (text : List Char) : text.length ≤ byteLength text := by
  induction text with
  | nil => exact Nat.le_refl 0
  | cons c rest ih =>
      have positive := c.utf8Size_pos
      rw [List.length_cons, byteLength]
      omega

/-- A match with its rule, as a mode finds it at a place. -/
structure CompiledMode.Finds (mode : CompiledMode σ) (s : Spot) (path : Path) (d : Dispatch σ) :
    Prop where
  first : mode.pattern.first? s = some path
  dispatched : dispatch? path mode.entries = some d

theorem CompiledMode.Finds.between {mode : CompiledMode σ} {s : Spot} {path : Path}
    {d : Dispatch σ} (finds : mode.Finds s path d) : d.extent.Between s path.spot :=
  Pattern.between_of_first? finds.first (group?_of_dispatch? finds.dispatched)

namespace Scanner

variable {l : Lexer σ} {s t : Scanner} {f : Firing σ}

/-- The scanner has come to an end where it stands. -/
def halt (s : Scanner) : Scanner := { s with done := true }

theorem halt_eq_self (done : s.done = true) : s.halt = s := by
  rw [halt, ← done]

/-- The number of bytes that are left. -/
def left (s : Scanner) : Nat := byteLength s.text - s.offset

theorem byteLength_text (s : Scanner) :
    byteLength s.text = s.offset + byteLength s.spot.rest := by
  rw [text, Spot.text, byteLength_append, byteLength_reverse, offset, s.spot.offset_eq]

theorem left_eq (s : Scanner) : s.left = byteLength s.spot.rest := by
  rw [left, byteLength_text]
  omega

theorem firing?_cases (found : s.firing? l = some f) : ∃ mode, l.modes[s.active]? = some mode ∧
    mode.Finds s.spot f.path f.dispatch ∧ f.offset = s.offset ∧ f.location = s.location := by
  simp only [firing?] at found
  cases active : l.modes[s.active]? with
  | none =>
      rw [active] at found
      cases found
  | some mode =>
      simp only [active] at found
      cases first : mode.pattern.first? s.spot with
      | none =>
          rw [first] at found
          cases found
      | some path =>
          simp only [first] at found
          obtain ⟨d, dispatched, rfl⟩ := Option.map_eq_some_iff.1 found
          exact ⟨mode, rfl, ⟨first, dispatched⟩, rfl, rfl⟩

theorem firing?_of_finds {mode : CompiledMode σ} {path : Path} {d : Dispatch σ}
    (active : l.modes[s.active]? = some mode) (finds : mode.Finds s.spot path d) :
    s.firing? l = some ⟨d, path, s.offset, s.location⟩ := by
  simp only [firing?, active, finds.first, finds.dispatched, Option.map_some]

theorem firing?_of_not_finds {mode : CompiledMode σ} (active : l.modes[s.active]? = some mode)
    (unfound : ∀ path d, ¬ mode.Finds s.spot path d) : s.firing? l = none := by
  refine Option.eq_none_iff_forall_ne_some.2 fun f found => ?_
  obtain ⟨mode', active', finds, -⟩ := firing?_cases found
  obtain rfl := Option.some.inj (active.symm.trans active')
  exact unfound _ _ finds

theorem jump?_frame {jump : Jump} (jumped : s.jump? jump = some t) :
    t.spot = s.spot ∧ t.location = s.location ∧ t.stalled = s.stalled := by
  cases jump with
  | stay =>
      obtain rfl := Option.some.inj jumped
      exact ⟨rfl, rfl, rfl⟩
  | switchTo mode =>
      obtain rfl := Option.some.inj jumped
      exact ⟨rfl, rfl, rfl⟩
  | push mode =>
      obtain rfl := Option.some.inj jumped
      exact ⟨rfl, rfl, rfl⟩
  | pop =>
      simp only [jump?] at jumped
      split at jumped
      · cases jumped
      · obtain rfl := Option.some.inj jumped
        exact ⟨rfl, rfl, rfl⟩

/-- A scanner that has not come to an end meets a match. -/
structure Meets (l : Lexer σ) (s : Scanner) (f : Firing σ) : Prop where
  running : s.done = false
  more : s.spot.atEnd = false
  found : s.firing? l = some f

/-- All that a turn can come to, and when. -/
inductive TurnCases (l : Lexer σ) (s : Scanner) : Turn σ → Scanner → Prop
  | ended (finished : s.done = true ∨ s.spot.atEnd = true ∨ s.firing? l = none) :
      TurnCases l s .ended s.halt
  | stuck {f : Firing σ} (meets : s.Meets l f) (stuck : s.isStuck f = true) :
      TurnCases l s (.stuck f) s.halt
  | unbalanced {f : Firing σ} (meets : s.Meets l f) (free : s.isStuck f = false)
      (jumped : (s.moveBehind f).jump? f.entry.jump = none) :
      TurnCases l s (.unbalanced f) (s.moveBehind f).halt
  | consumed {f : Firing σ} {t : Scanner} (meets : s.Meets l f) (free : s.isStuck f = false)
      (jumped : (s.moveBehind f).jump? f.entry.jump = some t) :
      TurnCases l s (.consumed f) { t with done := f.entry.error }

theorem turn_spec (l : Lexer σ) (s : Scanner) : TurnCases l s (s.turn l).1 (s.turn l).2 := by
  unfold turn
  split
  · next done =>
      have same := TurnCases.ended (l := l) (s := s) (.inl done)
      rw [halt_eq_self done] at same
      exact same
  · next running =>
      split
      · next atEnd => exact .ended (.inr (.inl atEnd))
      · next more =>
          cases found : s.firing? l with
          | none => exact .ended (.inr (.inr found))
          | some f =>
              have meets : s.Meets l f :=
                ⟨Bool.eq_false_iff.2 running, Bool.eq_false_iff.2 more, found⟩
              dsimp only
              split
              · next stuck => exact .stuck meets stuck
              · next free =>
                  cases jumped : (s.moveBehind f).jump? f.entry.jump with
                  | none => exact .unbalanced meets (Bool.eq_false_iff.2 free) jumped
                  | some t => exact .consumed meets (Bool.eq_false_iff.2 free) jumped

theorem turn_cases {turn : Turn σ} (step : s.turn l = (turn, t)) : TurnCases l s turn t := by
  have cases := turn_spec l s
  rw [step] at cases
  exact cases

theorem TurnCases.turn_eq {turn : Turn σ} (cases : TurnCases l s turn t) :
    s.turn l = (turn, t) := by
  cases cases with
  | ended finished =>
      by_cases done : s.done = true
      · rw [turn, if_pos done, halt_eq_self done]
      · rw [turn, if_neg done]
        by_cases atEnd : s.spot.atEnd = true
        · rw [if_pos atEnd]
          rfl
        · rw [if_neg atEnd, (finished.resolve_left done).resolve_left atEnd]
          rfl
  | stuck meets stuck => simp [turn, meets.running, meets.more, meets.found, stuck, halt]
  | unbalanced meets free jumped =>
      simp [turn, meets.running, meets.more, meets.found, free, jumped, halt]
  | consumed meets free jumped =>
      simp [turn, meets.running, meets.more, meets.found, free, jumped]

section Steps

variable (step : s.turn l = (.consumed f, t))

include step

theorem consumed_cases : s.Meets l f ∧ s.isStuck f = false ∧
    ∃ u, (s.moveBehind f).jump? f.entry.jump = some u ∧ t = { u with done := f.entry.error } := by
  cases turn_cases step with
  | consumed meets free jumped => exact ⟨meets, free, _, jumped, rfl⟩

theorem meets_of_consumed : s.Meets l f := (consumed_cases step).1

theorem spot_of_consumed : t.spot = f.dispatch.extent.stop := by
  obtain ⟨-, -, u, jumped, rfl⟩ := consumed_cases step
  exact (jump?_frame jumped).1

theorem location_of_consumed : t.location = f.advance.1 := by
  obtain ⟨-, -, u, jumped, rfl⟩ := consumed_cases step
  exact (jump?_frame jumped).2.1

theorem stalled_of_consumed : t.stalled = if f.chars.isEmpty then some s.offset else none := by
  obtain ⟨-, -, u, jumped, rfl⟩ := consumed_cases step
  exact (jump?_frame jumped).2.2

theorem done_of_consumed : t.done = f.entry.error := by
  obtain ⟨-, -, u, -, rfl⟩ := consumed_cases step
  rfl

end Steps

/-- Whether the scanner consumes a match next, for which something holds. -/
def consumes (l : Lexer σ) (s : Scanner) (p : Firing σ → Scanner → Bool) : Bool :=
  match s.turn l with
  | (.ended, _) => false
  | (.stuck _, _) => false
  | (.unbalanced _, _) => false
  | (.consumed f, t) => p f t

theorem consumes_iff {p : Firing σ → Scanner → Bool} :
    s.consumes l p = true ↔ ∃ f t, s.turn l = (.consumed f, t) ∧ p f t = true := by
  constructor
  · intro holds
    cases step : s.turn l with
    | mk turn t =>
        rw [consumes, step] at holds
        cases turn with
        | consumed f => exact ⟨f, t, rfl, holds⟩
        | _ => cases holds
  · rintro ⟨f, t, step, holds⟩
    rw [consumes, step]
    exact holds

theorem turn_of_done (done : s.done = true) : s.turn l = (.ended, s) := by
  rw [turn, if_pos done]

theorem done_of_ended (step : s.turn l = (.ended, t)) : t.done = true := by
  cases turn_cases step with
  | ended finished => rfl

theorem spot_of_ended (step : s.turn l = (.ended, t)) : t.spot = s.spot ∧
    t.location = s.location := by
  cases turn_cases step with
  | ended finished => exact ⟨rfl, rfl⟩

theorem stuck_cases (step : s.turn l = (.stuck f, t)) : s.Meets l f ∧ t = s.halt := by
  cases turn_cases step with
  | stuck meets stuck => exact ⟨meets, rfl⟩

theorem unbalanced_cases (step : s.turn l = (.unbalanced f, t)) :
    s.Meets l f ∧ t = (s.moveBehind f).halt := by
  cases turn_cases step with
  | unbalanced meets free jumped => exact ⟨meets, rfl⟩

namespace Meets

variable (meets : s.Meets l f)

include meets

theorem between : f.dispatch.extent.Between s.spot f.path.spot := by
  obtain ⟨mode, -, finds, -⟩ := firing?_cases meets.found
  exact finds.between

theorem text_moveBehind : (s.moveBehind f).text = s.text := by
  obtain ⟨before, inside, -⟩ := meets.between
  exact (before.trans inside).leads.text_eq

theorem entry_mem : ∃ mode ∈ l.modes, f.entry ∈ mode.entries := by
  obtain ⟨mode, active, finds, -⟩ := firing?_cases meets.found
  exact ⟨mode, List.mem_of_getElem? active,
    CompiledMode.entry_mem_of_dispatch? finds.dispatched⟩

theorem rest_pos : 0 < s.spot.rest.length := by
  have more := meets.more
  rw [Spot.atEnd, List.isEmpty_eq_false_iff] at more
  exact List.length_pos_iff.2 more

theorem two_le_measure : 2 ≤ s.measure := by
  have positive := meets.rest_pos
  rw [measure]
  omega

end Meets

theorem measure_le_length (s : Scanner) : s.measure ≤ 2 * s.spot.rest.length + 1 := by
  rw [measure]
  split <;> omega

theorem measure_le (s : Scanner) : s.measure ≤ 2 * s.left + 1 := by
  have bound := s.measure_le_length
  have short := length_le_byteLength s.spot.rest
  rw [left_eq]
  omega

/-- Consuming a match brings the end nearer, even if the match is empty: then no empty match was
consumed in this place before.  The scanner behind it can still make a turn. -/
theorem measure_of_consumed (step : s.turn l = (.consumed f, t)) :
    0 < t.measure ∧ t.measure < s.measure := by
  obtain ⟨meets, free, -⟩ := consumed_cases step
  obtain ⟨before, inside, -⟩ := meets.between
  have spot := spot_of_consumed step
  have stalled := stalled_of_consumed step
  have positive := meets.rest_pos
  have onward : s.spot.LeadsOn t.spot := by
    rw [spot]
    exact before.trans inside
  by_cases empty : f.chars = []
  · -- No mark was set here, and one is set now.
    have fresh : s.stalled ≠ some s.offset := by
      intro marked
      simp [isStuck, empty, marked] at free
    rw [empty, List.isEmpty_nil, if_pos rfl] at stalled
    rw [measure, measure, if_neg fresh, stalled]
    by_cases same : t.offset = s.offset
    · rw [if_pos (congrArg some same.symm), onward.eq_of_offset_eq same]
      omega
    · have shorter : t.spot.rest.length < s.spot.rest.length := by
        refine Nat.lt_of_not_le fun full => same ?_
        exact congrArg Spot.offset (onward.eq_of_length_le full)
      rw [if_neg fun marked => same (Option.some.inj marked).symm]
      omega
  · have shorter : t.spot.rest.length < s.spot.rest.length := by
      have chars := congrArg List.length inside.leads.1
      have some_chars := List.length_pos_iff.2 empty
      have whole := before.length_le
      rw [List.length_append] at chars
      rw [spot]
      exact Nat.lt_of_lt_of_le (by rw [chars]; exact Nat.lt_add_of_pos_left some_chars) whole
    rw [List.isEmpty_eq_false_iff.2 empty, if_neg Bool.false_ne_true] at stalled
    rw [measure, measure, stalled, if_neg nofun]
    omega

end Scanner

end ModalLexer
