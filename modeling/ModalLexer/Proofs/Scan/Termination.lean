import ModalLexer.Proofs.Scan.Calls

/-! # Scanning ends and stays ended

From any state of a scanner, at most twice as many items come out as bytes are left, only the last
of them is an error or comes from an error rule, and each call takes a bounded number of turns.
Behind the last item nothing but a successful reset has any effect (`Scanner.scan_ends`). -/
set_option autoImplicit false
namespace ModalLexer.Scanner

variable {σ : Type} {l : Lexer σ}

/-- Drawing items from a scanner until there are no more. -/
inductive Drains (l : Lexer σ) :
    Scanner → σ → List (Except ScanError Token) → Scanner → σ → Prop
  | ended {s t : Scanner} {state after : σ} (call : s.next l state = (.ok none, t, after)) :
      Drains l s state [] t after
  | token {s t u : Scanner} {state after last : σ} {token : Token}
      {items : List (Except ScanError Token)}
      (call : s.next l state = (.ok (some token), t, after))
      (later : Drains l t after items u last) : Drains l s state (.ok token :: items) u last
  | error {s t u : Scanner} {state after last : σ} {e : ScanError}
      {items : List (Except ScanError Token)} (call : s.next l state = (.error e, t, after))
      (later : Drains l t after items u last) : Drains l s state (.error e :: items) u last

section Call

variable {s t : Scanner} {state after : σ} {item : Item}
  (call : s.next l state = (item, t, after))

include call

theorem exists_turns : ∃ turns, Next l s state turns item t after := by
  obtain ⟨turns, taken⟩ := next_spec l s state
  rw [call] at taken
  exact ⟨turns, taken⟩

theorem done_of_next (given : ∀ token, item ≠ .ok (some token)) : t.done = true := by
  obtain ⟨turns, taken⟩ := exists_turns call
  exact taken.done_of_no_token given

end Call

theorem measure_of_next {s t : Scanner} {state after : σ} {token : Token}
    (call : s.next l state = (.ok (some token), t, after)) :
    0 < t.measure ∧ t.measure < s.measure := by
  obtain ⟨turns, taken⟩ := exists_turns call
  exact taken.measure_of_token rfl

theorem exists_drains (l : Lexer σ) (s : Scanner) (state : σ) :
    ∃ items t after, Drains l s state items t after := by
  -- A token lowers the measure, and behind an error there is only the end.
  induction size : s.measure using Nat.strong_induction_on generalizing s state with
  | h n ih =>
      cases call : s.next l state with
      | mk item behind =>
          obtain ⟨t, after⟩ := behind
          match item with
          | .ok none => exact ⟨[], t, after, .ended call⟩
          | .ok (some token) =>
              obtain ⟨-, lower⟩ := measure_of_next call
              obtain ⟨items, u, last, later⟩ := ih t.measure (by omega) t after rfl
              exact ⟨.ok token :: items, u, last, .token call later⟩
          | .error e =>
              have done := done_of_next call nofun
              exact ⟨[.error e], t, after, .error call (.ended (next_of_done done after))⟩

namespace Drains

variable {s t : Scanner} {state after : σ} {items : List (Except ScanError Token)}
  (drains : Drains l s state items t after)

include drains

theorem eq_nil_of_done (done : s.done = true) : items = [] := by
  have call := next_of_done (l := l) done state
  cases drains with
  | ended _ => rfl
  | token given later =>
      rw [call] at given
      cases given
  | error given later =>
      rw [call] at given
      cases given

/-- Each item costs a turn that meets a match. -/
theorem length_lt_measure (some_items : items ≠ []) : items.length < s.measure := by
  induction drains with
  | ended call => exact absurd rfl some_items
  | @token s t u state after last token items call later ih =>
      obtain ⟨positive, lower⟩ := measure_of_next call
      rw [List.length_cons]
      by_cases more : items = []
      · rw [more, List.length_nil]
        omega
      · have rest := ih more
        omega
  | error call later ih =>
      obtain ⟨turns, taken⟩ := exists_turns call
      have began := taken.measure_of_error rfl
      rw [later.eq_nil_of_done (done_of_next call nofun), List.length_singleton]
      omega

theorem length_le : items.length ≤ 2 * s.left := by
  by_cases some_items : items = []
  · rw [some_items]
    exact Nat.zero_le _
  · have bound := measure_le s
    have fewer := drains.length_lt_measure some_items
    omega

/-- An error, or a token of an error rule, has no item behind it. -/
theorem of_mem_dropLast {item : Except ScanError Token} (member : item ∈ items.dropLast) :
    ∃ token, item = .ok token ∧ token.isError = false := by
  induction drains with
  | ended call => cases member
  | @token s t u state after last token items call later ih =>
      cases items with
      | nil => cases member
      | cons second items =>
          rw [List.dropLast_cons_cons] at member
          rcases List.mem_cons.1 member with rfl | member
          · obtain ⟨turns, taken⟩ := exists_turns call
            refine ⟨token, rfl, ?_⟩
            rw [← taken.done_of_token rfl]
            apply Bool.eq_false_iff.2
            intro done
            cases later.eq_nil_of_done done
          · exact ih member
  | error call later ih =>
      rw [later.eq_nil_of_done (done_of_next call nofun)] at member
      cases member

theorem drain_eq {limit : Nat} (enough : items.length < limit) :
    s.drain l limit state = (items, t, after) := by
  induction drains generalizing limit with
  | ended call =>
      obtain ⟨limit, rfl⟩ := Nat.exists_eq_succ_of_ne_zero (Nat.ne_zero_of_lt enough)
      rw [drain, call]
  | token call later ih =>
      obtain ⟨limit, rfl⟩ := Nat.exists_eq_succ_of_ne_zero (Nat.ne_zero_of_lt enough)
      simp only [drain, call, ih (Nat.lt_of_succ_lt_succ enough)]
  | error call later ih =>
      obtain ⟨limit, rfl⟩ := Nat.exists_eq_succ_of_ne_zero (Nat.ne_zero_of_lt enough)
      simp only [drain, call, ih (Nat.lt_of_succ_lt_succ enough)]

theorem unique {t' : Scanner} {after' : σ} {items' : List (Except ScanError Token)}
    (drains' : Drains l s state items' t' after') : items = items' ∧ t = t' ∧ after = after' := by
  have enough : items.length < items.length + items'.length + 1 := by omega
  have enough' : items'.length < items.length + items'.length + 1 := by omega
  have same := (drains.drain_eq enough).symm.trans (drains'.drain_eq enough')
  simpa only [Prod.mk.injEq] using same

end Drains

inductive Request
  | next
  | reset (text : List Char) (checkpoint : Option Checkpoint)

inductive Reply
  | item (item : Item)
  | reset (result : Except ScanError Unit)

def answer (l : Lexer σ) (s : Scanner) (state : σ) : Request → Reply × Scanner × σ
  | .next => let (item, t, after) := s.next l state; (.item item, t, after)
  | .reset text checkpoint =>
      let (result, t) := s.reset text checkpoint
      (.reset result, t, state)

def answers (l : Lexer σ) : Scanner → σ → List Request → List Reply × Scanner × σ
  | s, state, [] => ([], s, state)
  | s, state, request :: rest =>
      let (reply, t, after) := s.answer l state request
      let (replies, last) := answers l t after rest
      (reply :: replies, last)

theorem answers_cons (s : Scanner) (state : σ) (request : Request) (rest : List Request) :
    answers l s state (request :: rest) =
      ((s.answer l state request).1 ::
          (answers l (s.answer l state request).2.1 (s.answer l state request).2.2 rest).1,
        (answers l (s.answer l state request).2.1 (s.answer l state request).2.2 rest).2) := rfl

/-- The reply of a scanner that has ended: no token, and no error of scanning. -/
def Reply.Idle : Reply → Prop
  | .item given => given = .ok none
  | .reset result => ∃ e, result = .error e

theorem answer_of_done {s : Scanner} (done : s.done = true) (state : σ) (request : Request) :
    (s.answer l state request).1 = .reset (.ok ()) ∨
      (s.answer l state request).1.Idle ∧ (s.answer l state request).2 = (s, state) := by
  cases request with
  | next =>
      have given : s.answer l state .next = (.item (s.next l state).1, (s.next l state).2) := rfl
      rw [given, next_of_done done]
      exact .inr ⟨rfl, rfl⟩
  | reset text checkpoint =>
      simp only [answer, reset]
      split
      · next e bad =>
          refine .inr ⟨⟨e, rfl⟩, ?_⟩
          exact congrArg (·, state) (halt_eq_self done)
      · next spot good => exact .inl rfl

/-- As long as no reset succeeds, a scanner that has ended gives nothing and does not change. -/
theorem answers_of_done {s : Scanner} (done : s.done = true) (state : σ)
    (requests : List Request) (refused : .reset (.ok ()) ∉ (answers l s state requests).1) :
    (∀ reply ∈ (answers l s state requests).1, reply.Idle) ∧
      (answers l s state requests).2 = (s, state) := by
  induction requests with
  | nil => exact ⟨fun _ member => absurd member List.not_mem_nil, rfl⟩
  | cons request rest ih =>
      rcases answer_of_done (l := l) done state request with success | ⟨idle, unchanged⟩
      · refine absurd ?_ refused
        rw [answers_cons, ← success]
        exact List.mem_cons_self
      · rw [answers_cons, unchanged] at refused ⊢
        obtain ⟨allIdle, same⟩ := ih fun member => refused (List.mem_cons_of_mem _ member)
        refine ⟨?_, same⟩
        intro reply member
        rcases List.mem_cons.1 member with rfl | member
        · exact idle
        · exact allIdle reply member

/-- From any state of a scanner: a call for the next token takes at most one turn more than twice
the number of bytes left.  Drawing items comes to an end, after at most twice as many of them as
bytes were left, and only the last may be an error or a token of an error rule.  And when a call
has given no token, then until a reset succeeds every further call gives nothing, and neither the
scanner nor the state of the value functions changes. -/
theorem scan_ends (l : Lexer σ) (s : Scanner) (state : σ) :
    (∃ turns, Next l s state turns (s.next l state).1 (s.next l state).2.1 (s.next l state).2.2 ∧
      turns.length ≤ 2 * s.left + 1) ∧
    (∃ items t after, Drains l s state items t after ∧ items.length ≤ 2 * s.left ∧
      (∀ item ∈ items.dropLast, ∃ token, item = .ok token ∧ token.isError = false) ∧
      ∀ limit, items.length < limit → s.drain l limit state = (items, t, after)) ∧
    ((∀ token, (s.next l state).1 ≠ .ok (some token)) →
      ∀ requests : List Request,
        let ended := (s.next l state).2
        let replies := answers l ended.1 ended.2 requests
        .reset (.ok ()) ∉ replies.1 → (∀ reply ∈ replies.1, reply.Idle) ∧ replies.2 = ended) := by
  refine ⟨?_, ?_, ?_⟩
  · obtain ⟨turns, taken⟩ := next_spec l s state
    have bound := measure_le s
    have short := taken.length_le
    exact ⟨turns, taken, by omega⟩
  · obtain ⟨items, t, after, drains⟩ := exists_drains l s state
    exact ⟨items, t, after, drains, drains.length_le, fun _ => drains.of_mem_dropLast,
      fun _ => drains.drain_eq⟩
  · intro given requests ended replies refused
    have done : ended.1.done = true := done_of_next rfl given
    exact answers_of_done done ended.2 requests refused

end ModalLexer.Scanner
