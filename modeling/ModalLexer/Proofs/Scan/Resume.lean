import ModalLexer.Proofs.Scan.Reachable
import ModalLexer.Proofs.Scan.Termination

/-! # Resuming gives the rest again

A checkpoint leaves out the modes and the mark of an empty match.  A scanner in the same modes that
is turned to the checkpoint differs from the one that took it in the mark alone, and the mark only
matters to the next turn (`Scanner.turn_unmark`).  So it goes on in the same way, unless the mark
forbids the next match (`Scanner.resume_replays`). -/
set_option autoImplicit false
namespace ModalLexer

variable {σ : Type}

/-- The value functions of a lexer neither read nor change the state. -/
def Lexer.IsPure (l : Lexer σ) : Prop :=
  ∀ mode ∈ l.modes, ∀ e ∈ mode.entries, ∀ fn, e.value = some fn → ∃ g, fn = ValueFn.pure g

theorem Lexer.isPure_of_ofModes {modes : List (Mode σ)} {l : Lexer σ} (ok : ofModes modes = .ok l)
    (each : ∀ m ∈ modes, ∀ rule ∈ m.rules, ∀ fn, rule.options.value = some fn →
      ∃ g, fn = ValueFn.pure g) : l.IsPure := by
  intro mode inModes e inEntries fn given
  obtain ⟨m, inGiven, made⟩ :=
    exists_of_forall₂_right (compileEach_eq (compileEach_of_ofModes ok).2) inModes
  obtain ⟨entries, -⟩ := CompiledMode.compile_entries made
  obtain ⟨rule, inRules, follows⟩ := exists_of_forall₂_right entries inEntries
  exact each m inGiven rule inRules fn (follows.value ▸ given)

namespace Scanner

variable {l : Lexer σ} {s t : Scanner} {turn : Turn σ} {turns : List (Turn σ)} {f : Firing σ}
  {text : List Char} {state after : σ} {item : Item}

theorem Meets.value_of_isPure (meets : s.Meets l f) (pure : l.IsPure) :
    ∃ value, ∀ state : σ, f.value state = (value, state) := by
  obtain ⟨mode, inModes, inEntries⟩ := meets.entry_mem
  by_cases dropped : f.entry.discard = true
  · exact ⟨.nothing, fun state => by rw [Firing.value, if_pos dropped]⟩
  · cases given : f.entry.value with
    | none => exact ⟨_, fun state => by rw [Firing.value, if_neg dropped, given]⟩
    | some fn =>
        obtain ⟨g, rfl⟩ := pure mode inModes f.entry inEntries fn given
        exact ⟨_, fun state => by rw [Firing.value, if_neg dropped, given]; rfl⟩

theorem Next.of_isPure (call : Next l s state turns item t after) (pure : l.IsPure) (state' : σ) :
    Next l s state' turns item t state' := by
  induction call generalizing state' with
  | ended step => exact .ended step
  | stuck step => exact .stuck step
  | unbalanced step =>
      obtain ⟨value, same⟩ := (unbalanced_cases step).1.value_of_isPure pure
      have call : Next l _ state' _ _ _ _ := .unbalanced step
      rwa [same] at call
  | token step kept =>
      obtain ⟨value, same⟩ := (meets_of_consumed step).value_of_isPure pure
      have call : Next l _ state' _ _ _ _ := .token step kept
      rw [same] at call ⊢
      exact call
  | discarded step dropped later ih =>
      obtain ⟨value, same⟩ := (meets_of_consumed step).value_of_isPure pure
      refine .discarded step dropped ?_
      rw [same]
      exact ih state'

theorem next_of_isPure (pure : l.IsPure) (call : s.next l state = (item, t, after)) (state' : σ) :
    s.next l state' = (item, t, state') := by
  obtain ⟨turns, taken⟩ := exists_turns call
  exact (taken.of_isPure pure state').next_eq

theorem Drains.of_isPure {items : List (Except ScanError Token)}
    (drains : Drains l s state items t after) (pure : l.IsPure) (state' : σ) :
    Drains l s state' items t state' := by
  induction drains with
  | ended call => exact .ended (next_of_isPure pure call state')
  | token call later ih => exact .token (next_of_isPure pure call state') ih
  | error call later ih => exact .error (next_of_isPure pure call state') ih

/-! ## The mark of an empty match -/

def lastEmpty? (turns : List (Turn σ)) : Option Nat :=
  (matched turns).getLast?.bind fun f => if f.chars.isEmpty then some f.offset else none

theorem lastEmpty?_of_unmoved (earlier : List (Turn σ)) (unmoved : turn.moved? = none) :
    lastEmpty? (earlier ++ [turn]) = lastEmpty? earlier := by
  have nothing : matched [turn] = [] := List.filterMap_cons_none unmoved
  rw [lastEmpty?, matched_append, nothing, List.append_nil, lastEmpty?]

theorem lastEmpty?_of_moved (earlier : List (Turn σ)) (moved : turn.moved? = some f) :
    lastEmpty? (earlier ++ [turn]) = if f.chars.isEmpty then some f.offset else none := by
  have one : matched [turn] = [f] := List.filterMap_cons_some moved
  rw [lastEmpty?, matched_append, one, List.getLast?_concat, Option.bind_some]

theorem stalled_of_turn {earlier : List (Turn σ)} (step : s.turn l = (turn, t))
    (marked : s.stalled = lastEmpty? earlier) : t.stalled = lastEmpty? (earlier ++ [turn]) := by
  cases turn_cases step with
  | ended finished => exact marked.trans (lastEmpty?_of_unmoved earlier rfl).symm
  | stuck meets stuck => exact marked.trans (lastEmpty?_of_unmoved earlier rfl).symm
  | unbalanced meets free jumped =>
      obtain ⟨mode, -, -, offset, -⟩ := firing?_cases meets.found
      rw [lastEmpty?_of_moved earlier rfl, offset]
      rfl
  | consumed meets free jumped =>
      obtain ⟨mode, -, -, offset, -⟩ := firing?_cases meets.found
      rw [lastEmpty?_of_moved earlier rfl, offset]
      exact stalled_of_consumed step

theorem Trail.stalled_eq {earlier : List (Turn σ)} (trail : Trail l s turns t)
    (marked : s.stalled = lastEmpty? earlier) : t.stalled = lastEmpty? (earlier ++ turns) := by
  induction trail generalizing earlier with
  | nil s => rwa [List.append_nil]
  | cons step later ih =>
      rw [List.append_cons]
      exact ih (stalled_of_turn step marked)

/-- The mark tells of the last match since the scanner was bound to its text. -/
theorem Reaches.stalled_eq (reached : Reaches l text turns s) : s.stalled = lastEmpty? turns := by
  induction reached with
  | scan text => rfl
  | bound earlier ok ih =>
      obtain ⟨spot, -, rfl⟩ := reset_ok_cases ok
      rfl
  | refused earlier bad ih =>
      rw [reset_error_cases bad]
      exact ih
  | called earlier call ih => exact call.trail.stalled_eq ih

def unmark (s : Scanner) : Scanner := { s with stalled := none }

/-- The mark can only make a match stuck, and nothing is left of it behind a match. -/
theorem turn_unmark (step : s.turn l = (turn, t)) (moved : turn.moved? = some f) :
    s.unmark.turn l = (turn, t) := by
  have freed {g : Firing σ} (free : s.isStuck g = false) : s.unmark.isStuck g = false := by
    simp only [isStuck, unmark, Bool.and_eq_false_iff, Bool.or_eq_false_iff] at free ⊢
    exact free.imp id fun moves => ⟨moves.1, rfl⟩
  cases turn_cases step with
  | ended finished => cases moved
  | stuck meets stuck => cases moved
  | @unbalanced g meets free jumped =>
      have meets' : s.unmark.Meets l g := ⟨meets.running, meets.more, meets.found⟩
      exact (TurnCases.unbalanced meets' (freed free) jumped).turn_eq
  | @consumed g u meets free jumped =>
      have meets' : s.unmark.Meets l g := ⟨meets.running, meets.more, meets.found⟩
      exact (TurnCases.consumed meets' (freed free) jumped).turn_eq

/-- Without the mark a call comes to the same. -/
theorem Next.unmark (call : Next l s state turns item t after)
    (stays : ∀ f, s.Meets l f → s.isStuck f = true → s.unmark.isStuck f = true) :
    Next l s.unmark state turns item t after ∨
      t.done = true ∧ (∀ token, item ≠ .ok (some token)) ∧
        Next l s.unmark state turns item t.unmark after := by
  cases call with
  | ended step =>
      cases turn_cases step with
      | ended finished =>
          have finished' : s.unmark.done = true ∨ s.unmark.spot.atEnd = true ∨
            s.unmark.firing? l = none := finished
          exact .inr ⟨rfl, nofun, .ended (TurnCases.ended finished').turn_eq⟩
  | @stuck _ _ _ f step =>
      cases turn_cases step with
      | stuck meets stuck =>
          have meets' : s.unmark.Meets l f := ⟨meets.running, meets.more, meets.found⟩
          have turn := (TurnCases.stuck meets' (stays f meets stuck)).turn_eq
          exact .inr ⟨rfl, nofun, .stuck turn⟩
  | unbalanced step => exact .inl (.unbalanced (turn_unmark step rfl))
  | token step kept => exact .inl (.token (turn_unmark step rfl) kept)
  | discarded step dropped later => exact .inl (.discarded (turn_unmark step rfl) dropped later)

theorem Drains.of_done {items : List (Except ScanError Token)}
    (drains : Drains l s state items t after) (done : s.done = true) :
    items = [] ∧ t = s ∧ after = state := by
  have nothing := next_of_done (l := l) done state
  cases drains with
  | ended call =>
      obtain ⟨-, same⟩ := Prod.mk.inj (nothing.symm.trans call)
      obtain ⟨rfl, rfl⟩ := Prod.mk.inj same
      exact ⟨rfl, rfl, rfl⟩
  | token call later => cases nothing.symm.trans call
  | error call later => cases nothing.symm.trans call

theorem Drains.unmark {items : List (Except ScanError Token)}
    (drains : Drains l s state items t after)
    (stays : ∀ f, s.Meets l f → s.isStuck f = true → s.unmark.isStuck f = true) :
    ∃ t', Drains l s.unmark state items t' after ∧ t'.unmark = t.unmark := by
  cases drains with
  | ended call =>
      obtain ⟨turns, taken⟩ := exists_turns call
      rcases taken.unmark stays with same | ⟨done, -, marked⟩
      · exact ⟨t, .ended same.next_eq, rfl⟩
      · exact ⟨t.unmark, .ended marked.next_eq, rfl⟩
  | token call later =>
      obtain ⟨turns, taken⟩ := exists_turns call
      rcases taken.unmark stays with same | ⟨-, none, -⟩
      · exact ⟨t, .token same.next_eq later, rfl⟩
      · exact absurd rfl (none _)
  | error call later =>
      obtain ⟨turns, taken⟩ := exists_turns call
      rcases taken.unmark stays with same | ⟨done, -, marked⟩
      · exact ⟨t, .error same.next_eq later, rfl⟩
      · obtain ⟨rfl, rfl, rfl⟩ := later.of_done done
        have done' : t.unmark.done = true := done
        exact ⟨t.unmark, .error marked.next_eq (.ended (next_of_done done' _)), rfl⟩

/-! ## Resuming -/

/-- A scanner that is turned to a checkpoint of a text becomes as it should, unless the line or the
column of the checkpoint is zero; then the checkpoint is refused. -/
def Resumes (text : List Char) (checkpoint : Checkpoint) (r : Scanner) (good : Scanner → Prop) :
    Prop :=
  (checkpoint.location.Positive → ∃ r', r.reset text (some checkpoint) = (.ok (), r') ∧ good r') ∧
    (¬ checkpoint.location.Positive → ∃ e, r.reset text (some checkpoint) = (.error e, r.halt))

theorem Sound.resumes (sound : s.Sound l text) (running : s.done = false) {r : Scanner}
    (active : r.active = s.active) (stack : r.stack = s.stack) {good : Scanner → Prop}
    (holds : good s.unmark) : Resumes text s.save r good := by
  constructor
  · intro positive
    have found := sound.spot_save positive
    refine ⟨s.unmark, ?_, holds⟩
    rw [Scanner.reset, Option.getD_some, found, active, stack, unmark, running]
    rfl
  · intro zero
    have refused : s.save.spot text = .error _ :=
      if_pos (Decidable.not_not.1 (mt Location.positive_iff.2 zero))
    rw [Scanner.reset, Option.getD_some, refused]
    exact ⟨_, rfl⟩

end Scanner

end ModalLexer
