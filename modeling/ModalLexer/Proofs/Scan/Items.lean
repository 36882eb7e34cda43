import ModalLexer.Proofs.Scan.Termination

/-! # Items, turn by turn

A scan takes turns up to one at which it ends (`Scanner.Ends`).  The items that are drawn from it
are those that its turns give, one after the other, whichever lexer took them
(`Scanner.Trail.drains_behind`). -/
set_option autoImplicit false
namespace ModalLexer

variable {σ : Type}

/-- The items that a turn gives, none or one, and what becomes of the state of the value
functions. -/
def Turn.gives (state : σ) : Turn σ → List (Except ScanError Token) × σ
  | .ended => ([], state)
  | .stuck f => ([.error (.emptyMatch f.entry.kind f.location.line f.location.col)], state)
  | .unbalanced f =>
      ([.error (.popOnEmptyStack f.entry.kind f.location.line f.location.col)], (f.value state).2)
  | .consumed f =>
      (if f.entry.discard then [] else [.ok (f.token (f.value state).1)], (f.value state).2)

def gives (state : σ) : List (Turn σ) → List (Except ScanError Token) × σ
  | [] => ([], state)
  | turn :: rest =>
      let (items, between) := turn.gives state
      let (more, after) := gives between rest
      (items ++ more, after)

theorem gives_cons (state : σ) (turn : Turn σ) (rest : List (Turn σ)) :
    (gives state (turn :: rest)).1 =
      (turn.gives state).1 ++ (gives (turn.gives state).2 rest).1 := rfl

namespace Scanner

variable {l : Lexer σ} {s t u : Scanner} {turn : Turn σ} {turns : List (Turn σ)} {f : Firing σ}
  {state after : σ} {items : List (Except ScanError Token)}

theorem Drains.behind_discarded (step : s.turn l = (.consumed f, t))
    (dropped : f.entry.discard = true) (drains : Drains l t state items u after) :
    Drains l s state items u after := by
  have untouched : (f.value state).2 = state := by
    rw [Firing.value, if_pos dropped]
  have onward {item : Item} {v : Scanner} {between : σ}
      (call : t.next l state = (item, v, between)) : s.next l state = (item, v, between) := by
    obtain ⟨turns, taken⟩ := exists_turns call
    rw [← untouched] at taken
    exact (Next.discarded step dropped taken).next_eq
  cases drains with
  | ended call => exact .ended (onward call)
  | token call later => exact .token (onward call) later
  | error call later => exact .error (onward call) later

/-- The items of one turn come before those that are drawn behind it. -/
theorem Drains.behind_turn (step : s.turn l = (turn, t)) (going : turn ≠ .ended)
    (drains : Drains l t (turn.gives state).2 items u after) :
    Drains l s state ((turn.gives state).1 ++ items) u after := by
  cases turn with
  | ended => exact absurd rfl going
  | stuck f =>
      have call : Next l s state _ _ t state := .stuck step
      exact .error call.next_eq drains
  | unbalanced f =>
      have call : Next l s state _ _ t (f.value state).2 := .unbalanced step
      exact .error call.next_eq drains
  | consumed f =>
      simp only [Turn.gives] at drains ⊢
      by_cases dropped : f.entry.discard = true
      · have untouched : (f.value state).2 = state := by
          rw [Firing.value, if_pos dropped]
        rw [untouched] at drains
        rw [if_pos dropped]
        exact drains.behind_discarded step dropped
      · have call : Next l s state _ _ t (f.value state).2 :=
          .token step (Bool.eq_false_iff.2 dropped)
        rw [if_neg dropped]
        exact .token call.next_eq drains

theorem Trail.drains_behind (trail : Trail l s turns u) (going : .ended ∉ turns)
    (drains : Drains l u (gives state turns).2 items t after) :
    Drains l s state ((gives state turns).1 ++ items) t after := by
  induction trail generalizing state with
  | nil s => exact drains
  | @cons s v u turn turns step later ih =>
      rw [List.mem_cons, not_or] at going
      have behind := ih going.2 drains
      have whole := behind.behind_turn step (Ne.symm going.1)
      rw [← List.append_assoc] at whole
      exact whole

/-- The turns of a scan up to a state in which it ends, and the state behind that. -/
structure Ends (l : Lexer σ) (s : Scanner) (turns : List (Turn σ)) (u t : Scanner) : Prop where
  trail : Trail l s turns u
  going : .ended ∉ turns
  last : u.turn l = (.ended, t)

theorem Ends.cons {v : Scanner} (step : s.turn l = (turn, v)) (going : turn ≠ .ended)
    (later : Ends l v turns u t) : Ends l s (turn :: turns) u t := by
  refine ⟨.cons step later.trail, ?_, later.last⟩
  rw [List.mem_cons, not_or]
  exact ⟨Ne.symm going, later.going⟩

theorem Ends.of_done (done : s.done = true) : Ends l s [] s s :=
  ⟨.nil s, List.not_mem_nil, turn_of_done done⟩

/-- Every scan ends: each match that it consumes brings the end nearer. -/
theorem exists_ends (l : Lexer σ) (s : Scanner) : ∃ turns u t, Ends l s turns u t := by
  induction size : s.measure using Nat.strong_induction_on generalizing s with
  | h n ih =>
      cases step : s.turn l with
      | mk turn v =>
          cases turn with
          | ended => exact ⟨[], s, v, .nil s, List.not_mem_nil, step⟩
          | stuck f =>
              have done : v.done = true := by
                rw [(stuck_cases step).2]
                rfl
              exact ⟨_, v, v, .cons step nofun (.of_done done)⟩
          | unbalanced f =>
              have done : v.done = true := by
                rw [(unbalanced_cases step).2]
                rfl
              exact ⟨_, v, v, .cons step nofun (.of_done done)⟩
          | consumed f =>
              obtain ⟨-, lower⟩ := measure_of_consumed step
              obtain ⟨turns, u, t, later⟩ := ih v.measure (by omega) v rfl
              exact ⟨_, u, t, .cons step nofun later⟩

theorem Ends.drains (ends : Ends l s turns u t) (state : σ) :
    Drains l s state (gives state turns).1 t (gives state turns).2 := by
  have call : Next l u (gives state turns).2 _ _ t (gives state turns).2 := .ended ends.last
  have whole := ends.trail.drains_behind ends.going (.ended call.next_eq)
  rwa [List.append_nil] at whole

end Scanner

end ModalLexer
