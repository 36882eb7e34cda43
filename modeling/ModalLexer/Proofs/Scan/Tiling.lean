import ModalLexer.Proofs.Scan.Calls
import ModalLexer.Proofs.Scan.Counters

/-! # The matches of a scan lie side by side

If matches start where they are looked for, then those that a scanner moves behind lie side by side
in the text, and the line it has reached is further than the one it came from by all the line breaks
of the matches (`Scanner.Trail.tiled`). -/
set_option autoImplicit false
namespace ModalLexer

variable {σ : Type}

/-- A match of the lexer found in a text starts where it was looked for. -/
def Lexer.StartsAtCursor (l : Lexer σ) (text : List Char) : Prop :=
  ∀ mode ∈ l.modes, ∀ (s : Spot) (path : Path) (d : Dispatch σ), s.text = text →
    mode.Finds s path d → d.extent.start = s

/-- The match that a turn moves the scanner behind, be it that the turn fails after that. -/
def Turn.moved? : Turn σ → Option (Firing σ)
  | .ended => none
  | .stuck _ => none
  | .unbalanced f => some f
  | .consumed f => some f

/-- The matches that some turns move the scanner behind. -/
def matched (turns : List (Turn σ)) : List (Firing σ) := turns.filterMap Turn.moved?

@[simp] theorem matched_append (turns more : List (Turn σ)) :
    matched (turns ++ more) = matched turns ++ matched more := List.filterMap_append

theorem matched_cons (turn : Turn σ) (turns : List (Turn σ)) :
    matched (turn :: turns) = matched [turn] ++ matched turns := matched_append [turn] turns

namespace Firing

def texts (fs : List (Firing σ)) : List Char := fs.flatMap chars

def breaks (fs : List (Firing σ)) : Nat := (fs.map (·.advance.2)).sum

theorem advance_further (f : Firing σ) : Further f.location.line f.advance.2 f.advance.1.line :=
  f.location.advance_further f.chars f.entry.lineBreaks

def Fits (f : Firing σ) : Prop := f.location.Fits f.chars f.entry.lineBreaks

instance (f : Firing σ) : Decidable f.Fits :=
  inferInstanceAs (Decidable (f.location.Fits f.chars f.entry.lineBreaks))

end Firing

namespace Scanner

variable {l : Lexer σ} {s t : Scanner} {turn : Turn σ} {turns : List (Turn σ)} {f : Firing σ}

theorem cases_of_moved (step : s.turn l = (turn, t)) (moved : turn.moved? = some f) :
    s.Meets l f ∧ t.spot = f.dispatch.extent.stop ∧ t.location = f.advance.1 := by
  cases turn with
  | ended => cases moved
  | stuck g => cases moved
  | unbalanced g =>
      obtain rfl := Option.some.inj moved
      obtain ⟨meets, rfl⟩ := unbalanced_cases step
      exact ⟨meets, rfl, rfl⟩
  | consumed g =>
      obtain rfl := Option.some.inj moved
      exact ⟨meets_of_consumed step, spot_of_consumed step, location_of_consumed step⟩

theorem unmoved_cases (step : s.turn l = (turn, t)) (unmoved : turn.moved? = none) :
    t.spot = s.spot ∧ t.location = s.location := by
  cases turn with
  | ended => exact spot_of_ended step
  | stuck f =>
      rw [(stuck_cases step).2]
      exact ⟨rfl, rfl⟩
  | unbalanced f => cases unmoved
  | consumed f => cases unmoved

theorem Meets.begins (anchored : l.StartsAtCursor s.text) (meets : s.Meets l f) :
    f.dispatch.extent.start = s.spot ∧ f.offset = s.offset ∧ f.location = s.location := by
  obtain ⟨mode, active, finds, offset, location⟩ := firing?_cases meets.found
  exact ⟨anchored mode (List.mem_of_getElem? active) s.spot f.path f.dispatch rfl finds, offset,
    location⟩

theorem leads_of_moved (anchored : l.StartsAtCursor s.text) (step : s.turn l = (turn, t))
    (moved : turn.moved? = some f) : Spot.Leads s.spot f.chars t.spot := by
  obtain ⟨meets, behind, -⟩ := cases_of_moved step moved
  obtain ⟨begins, -⟩ := meets.begins anchored
  obtain ⟨-, inside, -⟩ := meets.between
  rw [behind, ← begins]
  exact inside.leads

/-- What a scanner has passed between two states: a text in one piece, and its line breaks. -/
structure Passed (s : Scanner) (fs : List (Firing σ)) (t : Scanner) : Prop where
  leads : Spot.Leads s.spot (Firing.texts fs) t.spot
  line : Further s.location.line (Firing.breaks fs) t.location.line

namespace Passed

theorem refl (s : Scanner) : Passed (σ := σ) s [] s := ⟨.refl s.spot, further_zero _⟩

theorem trans {u : Scanner} {fs gs : List (Firing σ)} (first : s.Passed fs t)
    (second : t.Passed gs u) : s.Passed (fs ++ gs) u := by
  refine ⟨?_, ?_⟩
  · rw [Firing.texts, List.flatMap_append]
    exact first.leads.trans second.leads
  · rw [Firing.breaks, List.map_append, List.sum_append]
    exact first.line.trans second.line

theorem text_eq {fs : List (Firing σ)} (passed : s.Passed fs t) : t.text = s.text :=
  passed.leads.text_eq

end Passed

/-- One turn passes its match, if it has one. -/
theorem passed_of_turn (anchored : l.StartsAtCursor s.text) (step : s.turn l = (turn, t)) :
    s.Passed (matched [turn]) t := by
  cases moved : turn.moved? with
  | none =>
      obtain ⟨spot, location⟩ := unmoved_cases step moved
      rw [matched, List.filterMap_cons_none moved, List.filterMap_nil]
      refine ⟨?_, ?_⟩
      · rw [spot]
        exact .refl s.spot
      · rw [location]
        exact further_zero _
  | some f =>
      obtain ⟨meets, -, location⟩ := cases_of_moved step moved
      obtain ⟨-, -, here⟩ := meets.begins anchored
      rw [matched, List.filterMap_cons_some moved, List.filterMap_nil]
      refine ⟨?_, ?_⟩
      · rw [Firing.texts, List.flatMap_singleton]
        exact leads_of_moved anchored step moved
      · rw [location, ← here, Firing.breaks, List.map_singleton, List.sum_singleton]
        exact f.advance_further

/-- The scanner comes to an end within a number of turns, and no sum is too large on the way. -/
def fitsWithin (l : Lexer σ) : Nat → Scanner → Bool
  | 0, s => s.done
  | n + 1, s =>
      let (turn, t) := s.turn l
      turn.moved?.all (decide ·.Fits) && fitsWithin l n t

namespace Trail

theorem passed (trail : Trail l s turns t) (anchored : l.StartsAtCursor s.text) :
    s.Passed (matched turns) t := by
  induction trail with
  | nil s => exact .refl s
  | @cons s t u turn turns step later ih =>
      have first := passed_of_turn anchored step
      rw [← first.text_eq] at anchored
      rw [matched_cons]
      exact first.trans (ih anchored)

theorem split {before after : List (Turn σ)} (trail : Trail l s (before ++ after) t) :
    ∃ u, Trail l s before u ∧ Trail l u after t := by
  induction before generalizing s with
  | nil => exact ⟨s, .nil s, trail⟩
  | cons turn before ih =>
      cases trail with
      | cons step later =>
          obtain ⟨u, first, second⟩ := ih later
          exact ⟨u, .cons step first, second⟩

theorem matched_of_done (trail : Trail l s turns t) (done : s.done = true) :
    matched turns = [] := by
  induction trail with
  | nil s => rfl
  | cons step later ih =>
      rw [turn_of_done done] at step
      cases step
      exact ih done

theorem fits_of_fitsWithin (trail : Trail l s turns t) {n : Nat}
    (within : fitsWithin l n s = true) : ∀ f ∈ matched turns, f.Fits := by
  induction trail generalizing n with
  | nil s => exact List.forall_mem_nil _
  | @cons s t u turn turns step later ih =>
      cases n with
      | zero =>
          rw [(Trail.cons step later).matched_of_done within]
          exact List.forall_mem_nil _
      | succ n =>
          rw [fitsWithin, step, Bool.and_eq_true] at within
          obtain ⟨first, rest⟩ := within
          rw [matched_cons, List.forall_mem_append]
          refine ⟨?_, ih rest⟩
          intro f member
          obtain ⟨g, inside, moved⟩ := List.mem_filterMap.1 member
          rw [List.mem_singleton.1 inside] at moved
          rw [moved] at first
          exact of_decide_eq_true first

/-- A match stands behind the matches before it, and in their last line. -/
theorem tiled {before after : List (Turn σ)} (trail : Trail l s (before ++ turn :: after) t)
    (anchored : l.StartsAtCursor s.text) (moved : turn.moved? = some f) :
    ∃ u v : Scanner, s.Passed (matched before) u ∧ Spot.Leads u.spot f.chars v.spot ∧
      f.offset = u.offset ∧ f.location = u.location ∧ Trail l v after t := by
  obtain ⟨u, first, second⟩ := trail.split
  have passed := first.passed anchored
  rw [← passed.text_eq] at anchored
  cases second with
  | @cons _ v _ _ _ step later =>
      obtain ⟨meets, -⟩ := cases_of_moved step moved
      obtain ⟨-, offset, location⟩ := meets.begins anchored
      exact ⟨u, v, passed, leads_of_moved anchored step moved, offset, location, later⟩

theorem entry_mem (trail : Trail l s turns t) (member : f ∈ matched turns) :
    ∃ mode ∈ l.modes, f.entry ∈ mode.entries := by
  induction trail with
  | nil s => cases member
  | @cons s t u turn turns step later ih =>
      obtain ⟨g, inside, moved⟩ := List.mem_filterMap.1 member
      rcases List.mem_cons.1 inside with rfl | further
      · exact (cases_of_moved step moved).1.entry_mem
      · exact ih (List.mem_filterMap.2 ⟨g, further, moved⟩)

end Trail

end Scanner

end ModalLexer
