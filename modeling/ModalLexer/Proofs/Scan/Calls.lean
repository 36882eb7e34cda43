import ModalLexer.Proofs.Scan.Turn

/-! # Calls for tokens, turn by turn

`Scanner.Next` is one call for the next token: it lists the turns taken, however many they are, and
knows nothing of fuel.  `Scanner.next_spec` says that `Scanner.next` is such a call, and there is no
other (`Scanner.Next.next_eq`).  A sequence of calls (`Scanner.Calls`) is a sequence of turns
(`Scanner.Trail`). -/
set_option autoImplicit false
namespace ModalLexer.Scanner

variable {σ : Type} {l : Lexer σ} {s t : Scanner} {state after : σ} {turns : List (Turn σ)}
  {item : Item}

/-- One call for the next token, with the turns it takes. -/
inductive Next (l : Lexer σ) : Scanner → σ → List (Turn σ) → Item → Scanner → σ → Prop
  | ended {s t : Scanner} {state : σ} (step : s.turn l = (.ended, t)) :
      Next l s state [.ended] (.ok none) t state
  | stuck {s t : Scanner} {state : σ} {f : Firing σ} (step : s.turn l = (.stuck f, t)) :
      Next l s state [.stuck f]
        (.error (.emptyMatch f.entry.kind f.location.line f.location.col)) t state
  | unbalanced {s t : Scanner} {state : σ} {f : Firing σ} (step : s.turn l = (.unbalanced f, t)) :
      Next l s state [.unbalanced f]
        (.error (.popOnEmptyStack f.entry.kind f.location.line f.location.col)) t
        (f.value state).2
  | token {s t : Scanner} {state : σ} {f : Firing σ} (step : s.turn l = (.consumed f, t))
      (kept : f.entry.discard = false) :
      Next l s state [.consumed f] (.ok (some (f.token (f.value state).1))) t (f.value state).2
  | discarded {s t u : Scanner} {state after : σ} {f : Firing σ} {turns : List (Turn σ)}
      {item : Item} (step : s.turn l = (.consumed f, t)) (dropped : f.entry.discard = true)
      (later : Next l t (f.value state).2 turns item u after) :
      Next l s state (.consumed f :: turns) item u after

/-- With enough fuel the next token is looked for to the end. -/
theorem nextWithin_spec (l : Lexer σ) {fuel : Nat} (s : Scanner) (state : σ)
    (enough : s.measure < fuel) : ∃ turns, Next l s state turns (nextWithin l fuel s state).1
      (nextWithin l fuel s state).2.1 (nextWithin l fuel s state).2.2 := by
  induction fuel generalizing s state with
  | zero => exact absurd enough (Nat.not_lt_zero _)
  | succ fuel ih =>
      cases step : s.turn l with
      | mk turn t =>
          simp only [nextWithin, step]
          cases turn with
          | ended => exact ⟨_, .ended step⟩
          | stuck f => exact ⟨_, .stuck step⟩
          | unbalanced f => exact ⟨_, .unbalanced step⟩
          | consumed f =>
              obtain ⟨-, lower⟩ := measure_of_consumed step
              dsimp only
              split
              · next dropped =>
                  obtain ⟨turns, later⟩ := ih t (f.value state).2 (by omega)
                  exact ⟨_, .discarded step dropped later⟩
              · next kept => exact ⟨_, .token step (Bool.eq_false_iff.2 kept)⟩

theorem next_spec (l : Lexer σ) (s : Scanner) (state : σ) : ∃ turns,
    Next l s state turns (s.next l state).1 (s.next l state).2.1 (s.next l state).2.2 :=
  nextWithin_spec l s state (Nat.lt_succ_self s.measure)

theorem next_of_done (done : s.done = true) (state : σ) :
    s.next l state = (.ok none, s, state) := by
  rw [next, nextWithin, turn_of_done done]

namespace Next

variable (call : Next l s state turns item t after)

include call

theorem length_le : turns.length ≤ max 1 s.measure := by
  induction call with
  | ended step => exact Nat.le_max_left 1 _
  | stuck step => exact Nat.le_max_left 1 _
  | unbalanced step => exact Nat.le_max_left 1 _
  | token step kept => exact Nat.le_max_left 1 _
  | discarded step dropped later ih =>
      obtain ⟨positive, lower⟩ := measure_of_consumed step
      rw [List.length_cons]
      omega

/-- The fuel bounds the turns and says nothing about what they come to. -/
theorem nextWithin_eq {fuel : Nat} (enough : turns.length ≤ fuel) :
    nextWithin l fuel s state = (item, t, after) := by
  induction call generalizing fuel with
  | discarded step dropped later ih =>
      obtain ⟨fuel, rfl⟩ := Nat.exists_eq_succ_of_ne_zero (Nat.ne_zero_of_lt enough)
      rw [nextWithin, step]
      simp only [dropped, if_true]
      exact ih (Nat.le_of_succ_le_succ enough)
  | _ =>
      obtain ⟨fuel, rfl⟩ := Nat.exists_eq_succ_of_ne_zero (Nat.ne_zero_of_lt enough)
      simp only [nextWithin, *, Bool.false_eq_true, if_false]

theorem next_eq : s.next l state = (item, t, after) := by
  have short := call.length_le
  apply call.nextWithin_eq
  omega

theorem turns_unique {turns' : List (Turn σ)} {item' : Item} {t' : Scanner} {state' after' : σ}
    (other : Next l s state' turns' item' t' after') : turns' = turns := by
  induction call generalizing turns' state' with
  | discarded step dropped later ih =>
      cases other with
      | discarded step' dropped' later' =>
          rw [step] at step'
          cases step'
          exact congrArg _ (ih later')
      | _ => simp_all
  | _ => cases other <;> simp_all

theorem measure_of_token {token : Token} (given : item = .ok (some token)) :
    0 < t.measure ∧ t.measure < s.measure := by
  induction call with
  | ended step => cases given
  | stuck step => cases given
  | unbalanced step => cases given
  | token step kept => exact measure_of_consumed step
  | discarded step dropped later ih =>
      obtain ⟨positive, lower⟩ := ih given
      exact ⟨positive, lower.trans (measure_of_consumed step).2⟩

theorem measure_of_error {e : ScanError} (given : item = .error e) : 2 ≤ s.measure := by
  induction call with
  | ended step => cases given
  | stuck step => exact (stuck_cases step).1.two_le_measure
  | unbalanced step => exact (unbalanced_cases step).1.two_le_measure
  | token step kept => cases given
  | discarded step dropped later ih => exact (meets_of_consumed step).two_le_measure

/-- A scanner that gives a token has come to an end just if an error rule matched. -/
theorem done_of_token {token : Token} (given : item = .ok (some token)) :
    t.done = token.isError := by
  induction call with
  | ended step => cases given
  | stuck step => cases given
  | unbalanced step => cases given
  | token step kept =>
      cases given
      exact done_of_consumed step
  | discarded step dropped later ih => exact ih given

theorem done_of_no_token (given : ∀ token, item ≠ .ok (some token)) : t.done = true := by
  induction call with
  | ended step => exact done_of_ended step
  | stuck step =>
      rw [(stuck_cases step).2]
      rfl
  | unbalanced step =>
      rw [(unbalanced_cases step).2]
      rfl
  | token step kept => exact absurd rfl (given _)
  | discarded step dropped later ih => exact ih given

end Next

/-- Turns one after the other. -/
inductive Trail (l : Lexer σ) : Scanner → List (Turn σ) → Scanner → Prop
  | nil (s : Scanner) : Trail l s [] s
  | cons {s t u : Scanner} {turn : Turn σ} {turns : List (Turn σ)}
      (step : s.turn l = (turn, t)) (later : Trail l t turns u) : Trail l s (turn :: turns) u

theorem Trail.append {u : Scanner} {more : List (Turn σ)} (first : Trail l s turns t)
    (second : Trail l t more u) : Trail l s (turns ++ more) u := by
  induction first with
  | nil s => exact second
  | cons step later ih => exact .cons step (ih second)

/-- The item of a call comes out of its last turn; the matches before that are discarded. -/
theorem Next.exists_last (call : Next l s state turns item t after) :
    ∃ dropped last u between, turns = dropped ++ [last] ∧ Trail l s dropped u ∧
      Next l u between [last] item t after := by
  induction call with
  | ended step => exact ⟨[], _, _, _, rfl, .nil _, .ended step⟩
  | stuck step => exact ⟨[], _, _, _, rfl, .nil _, .stuck step⟩
  | unbalanced step => exact ⟨[], _, _, _, rfl, .nil _, .unbalanced step⟩
  | token step kept => exact ⟨[], _, _, _, rfl, .nil _, .token step kept⟩
  | discarded step dropped later ih =>
      obtain ⟨more, last, u, between, rfl, trail, call⟩ := ih
      exact ⟨_ :: more, last, u, between, rfl, .cons step trail, call⟩

theorem Next.consumed_of_token {turn : Turn σ} {token : Token}
    (call : Next l s state [turn] (.ok (some token)) t after) :
    ∃ f, turn = .consumed f ∧ s.turn l = (.consumed f, t) ∧ f.entry.discard = false ∧
      token = f.token (f.value state).1 := by
  cases call with
  | token step kept => exact ⟨_, rfl, step, kept, rfl⟩
  | discarded step dropped later => cases later

theorem Next.trail (call : Next l s state turns item t after) : Trail l s turns t := by
  induction call with
  | ended step => exact .cons step (.nil _)
  | stuck step => exact .cons step (.nil _)
  | unbalanced step => exact .cons step (.nil _)
  | token step kept => exact .cons step (.nil _)
  | discarded step dropped later ih => exact .cons step ih

def nextTimes (l : Lexer σ) : Nat → Scanner → σ → List Item × Scanner × σ
  | 0, s, state => ([], s, state)
  | n + 1, s, state =>
      let (item, t, after) := s.next l state
      let (items, last) := nextTimes l n t after
      (item :: items, last)

/-- Calls for the next token one after the other, with all the turns they take. -/
inductive Calls (l : Lexer σ) :
    Scanner → σ → List (Turn σ) → List Item → Scanner → σ → Prop
  | nil (s : Scanner) (state : σ) : Calls l s state [] [] s state
  | cons {s t u : Scanner} {state after last : σ} {turns more : List (Turn σ)} {item : Item}
      {items : List Item} (call : Next l s state turns item t after)
      (later : Calls l t after more items u last) :
      Calls l s state (turns ++ more) (item :: items) u last

theorem nextTimes_spec (l : Lexer σ) (n : Nat) (s : Scanner) (state : σ) : ∃ turns,
    Calls l s state turns (nextTimes l n s state).1 (nextTimes l n s state).2.1
      (nextTimes l n s state).2.2 := by
  induction n generalizing s state with
  | zero => exact ⟨[], .nil s state⟩
  | succ n ih =>
      obtain ⟨turns, call⟩ := next_spec l s state
      obtain ⟨more, later⟩ := ih (s.next l state).2.1 (s.next l state).2.2
      exact ⟨turns ++ more, .cons call later⟩

theorem Calls.trail {items : List Item} (calls : Calls l s state turns items t after) :
    Trail l s turns t := by
  induction calls with
  | nil s state => exact .nil s
  | cons call later ih => exact call.trail.append ih

end ModalLexer.Scanner
