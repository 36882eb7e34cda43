import ModalLexer.Proofs.Mode.FirstMatch
import ModalLexer.Proofs.Scan.Items

/-! # Where nothing matches

Short of the end of the text, a scan that has not ended stops where the active mode finds no match
(`Scanner.Unmatched`).  It does so where no variant of that mode matches by itself, and nowhere else
if those keep their groups that are passed over (`Scanner.firing?_eq_none_iff`).  If they do not, it
may stop though one matches (`Scanner.firing?_eq_none_of_lost`). -/
set_option autoImplicit false
namespace ModalLexer.Scanner

variable {σ : Type} {modes : List (Mode σ)} {l : Lexer σ} {s t u : Scanner} {turns : List (Turn σ)}

structure Unmatched (l : Lexer σ) (s : Scanner) : Prop where
  running : s.done = false
  more : s.spot.atEnd = false
  nothing : s.firing? l = none

theorem Unmatched.turn_eq (unmatched : s.Unmatched l) : s.turn l = (.ended, s.halt) :=
  (TurnCases.ended (.inr (.inr unmatched.nothing))).turn_eq

/-- A scan ends where it has ended before, at the end of the text, or where nothing matches. -/
theorem ended_cases (step : s.turn l = (.ended, t)) :
    t = s.halt ∧ (s.done = true ∨ s.spot.atEnd = true ∨ s.Unmatched l) := by
  cases turn_cases step with
  | ended finished =>
      refine ⟨rfl, ?_⟩
      by_cases done : s.done = true
      · exact .inl done
      by_cases atEnd : s.spot.atEnd = true
      · exact .inr (.inl atEnd)
      rw [Bool.not_eq_true] at done atEnd
      simp only [done, atEnd, Bool.false_eq_true, false_or] at finished
      exact .inr (.inr ⟨done, atEnd, finished⟩)

section Plain

variable (compiled : l.CompiledFrom modes) {m : Mode σ} (active : modes[s.active]? = some m)
  (plain : ∀ a ∈ alternatives m.rules, a.turnsVerbose = false)

include compiled active plain

theorem exists_separate : ∃ mode rows, l.modes[s.active]? = some mode ∧
    Separate mode m.rules rows := by
  obtain ⟨mode, there, resolve, made, -⟩ := exists_getElem?_of_forall₂ compiled.resolves active
  obtain ⟨rows, laid⟩ := compile_rows made
  exact ⟨mode, rows, there, laid.separate_of_plain plain⟩

/-- The active mode finds no match exactly if none of its variants matches by itself, provided that
those keep their groups that are passed over. -/
theorem firing?_eq_none_iff (keeps : ∀ a ∈ passedOver m.rules s.spot, a.KeepsGroups) :
    s.firing? l = none ↔ firstMatch? m.rules s.spot = none := by
  obtain ⟨mode, rows, there, separate⟩ := exists_separate compiled active plain
  rw [separate.firstMatch?_eq_none_iff]
  constructor
  · intro nothing r member
    by_contra matched
    obtain ⟨path, d, first, dispatched⟩ := separate.exists_dispatch keeps member matched
    rw [firing?_of_finds there ⟨first, dispatched⟩] at nothing
    cases nothing
  · intro unmatched
    simp only [firing?, there, separate.first?_eq_none unmatched]

/-- Where only the last variant of the active mode matches by itself, and a variant before it does not
keep its groups, nothing is found. -/
theorem firing?_eq_none_of_lost {before : List (Alternative σ)} {last : Alternative σ}
    (order : alternatives m.rules = before ++ [last])
    (unmatched : ∀ a ∈ before, a.report? s.spot = none) (matched : last.report? s.spot ≠ none)
    (lost : ¬ ∀ a ∈ before, a.KeepsGroups) : s.firing? l = none := by
  obtain ⟨mode, rows, there, separate⟩ := exists_separate compiled active plain
  have variants := separate.alternatives_eq
  rw [order, List.map_eq_append_iff] at variants
  obtain ⟨first, rest, split, rfl, ofLast⟩ := variants
  obtain ⟨r, rfl, rfl⟩ := List.map_eq_singleton_iff.1 ofLast
  rw [List.forall_mem_map] at unmatched lost
  have passed : ∀ b ∈ first, (b.branch.pattern .multiLineCrlf).first? s.spot = none := by
    intro b inFirst
    have member : b ∈ rows := by
      rw [split]
      exact List.mem_append_left _ inFirst
    have noReport := unmatched b inFirst
    rw [separate.report?_eq member, Option.map_eq_none_iff] at noReport
    exact noReport
  have member : r ∈ rows := by
    rw [split]
    exact List.mem_append_right _ List.mem_cons_self
  rw [separate.report?_eq member, Ne, Option.map_eq_none_iff] at matched
  obtain ⟨own, found⟩ := Option.ne_none_iff_exists'.1 matched
  obtain ⟨path, joined, dispatched⟩ := separate.exists_undispatched split passed found lost
  simp only [firing?, there, joined, dispatched, Option.map_none]

end Plain

structure Silent (modes : List (Mode σ)) (s : Scanner) : Prop where
  running : s.done = false
  more : s.spot.atEnd = false
  nothing : ∀ m, modes[s.active]? = some m → firstMatch? m.rules s.spot = none

theorem Unmatched.silent (unmatched : s.Unmatched l) (compiled : l.CompiledFrom modes)
    (plain : ∀ m ∈ modes, ∀ a ∈ alternatives m.rules, a.turnsVerbose = false)
    (keeps : ∀ m, modes[s.active]? = some m → ∀ a ∈ passedOver m.rules s.spot, a.KeepsGroups) :
    s.Silent modes := by
  refine ⟨unmatched.running, unmatched.more, ?_⟩
  intro m active
  have plain' := plain m (List.mem_of_getElem? active)
  exact (firing?_eq_none_iff compiled active plain' (keeps m active)).1 unmatched.nothing

end ModalLexer.Scanner
