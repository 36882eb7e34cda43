import ModalLexer.Proofs.Mode.Revalued
import ModalLexer.Proofs.Scan.Failures
import ModalLexer.Proofs.Scan.Items
import ModalLexer.Proofs.Scan.Reconstruction

/-! # When value functions are called

Let every value function write down its calls, next to the state it has (`Lexer.logged`).  A scan then
goes as it did, and the log shows which calls were made: one for each token whose rule has a value
function, in order, and at most one more, behind which the scan fails to resume a mode
(`Scanner.nextTimes_calls`).

Value functions have no say in anything else.  Lexers that differ in them take the same turns, with
other values (`Scanner.nextTimes_revalue`). -/
set_option autoImplicit false
namespace ModalLexer

variable {σ τ : Type}

/-! ## Turns with other value functions -/

section Revalue

variable (g : Revaluing σ τ)

def Dispatch.revalue (d : Dispatch σ) : Dispatch τ :=
  ⟨d.entry.revalue g, d.variant, d.slot, d.extent⟩

def Firing.revalue (f : Firing σ) : Firing τ :=
  ⟨f.dispatch.revalue g, f.path, f.offset, f.location⟩

def Turn.revalue : Turn σ → Turn τ
  | .ended => .ended
  | .stuck f => .stuck (f.revalue g)
  | .unbalanced f => .unbalanced (f.revalue g)
  | .consumed f => .consumed (f.revalue g)

theorem CompiledMode.dispatch?_revalue (p : Path) (entries : List (Entry σ)) :
    dispatch? p (entries.map (Entry.revalue g)) =
      (dispatch? p entries).map (Dispatch.revalue g) := by
  induction entries with
  | nil => rfl
  | cons e rest ih =>
      have slots : (e.revalue g).slots = e.slots := rfl
      rw [List.map_cons, dispatch?, dispatch?, slots]
      cases dispatchSlot? p 0 e.slots with
      | none => exact ih
      | some found => rfl

namespace Scanner

variable {l : Lexer σ} {s t : Scanner} {f : Firing σ} {turn : Turn σ} {turns : List (Turn σ)}
  {item : Item} {state after : σ}

theorem firing?_revalue (l : Lexer σ) (s : Scanner) :
    s.firing? (l.revalue g) = (s.firing? l).map (Firing.revalue g) := by
  simp only [firing?, Lexer.revalue, List.getElem?_map]
  cases l.modes[s.active]? with
  | none => rfl
  | some mode =>
      simp only [Option.map_some, CompiledMode.revalue, CompiledMode.dispatch?_revalue]
      cases mode.pattern.first? s.spot with
      | none => rfl
      | some path =>
          dsimp only
          rw [Option.map_map, Option.map_map]
          rfl

theorem Meets.revalue (meets : s.Meets l f) : s.Meets (l.revalue g) (f.revalue g) := by
  refine ⟨meets.running, meets.more, ?_⟩
  rw [firing?_revalue, meets.found, Option.map_some]

/-- A turn comes to the same, whatever the value functions are. -/
theorem turn_revalue (step : s.turn l = (turn, t)) :
    s.turn (l.revalue g) = (turn.revalue g, t) := by
  cases turn_cases step with
  | ended finished =>
      have finished' : s.done = true ∨ s.spot.atEnd = true ∨ s.firing? (l.revalue g) = none := by
        rw [firing?_revalue, Option.map_eq_none_iff]
        exact finished
      exact (TurnCases.ended finished').turn_eq
  | stuck meets stuck => exact (TurnCases.stuck (meets.revalue g) stuck).turn_eq
  | unbalanced meets free jumped =>
      exact (TurnCases.unbalanced (meets.revalue g) free jumped).turn_eq
  | consumed meets free jumped =>
      exact (TurnCases.consumed (meets.revalue g) free jumped).turn_eq

/-! ## Items with other values -/

def Item.valueless (item : Item) : Item :=
  item.map (Option.map fun token => { token with value := .nothing })

theorem Next.revalue (call : Next l s state turns item t after) (state' : τ) :
    ∃ item' after', Next (l.revalue g) s state' (turns.map (Turn.revalue g)) item' t after' ∧
      Item.valueless item' = Item.valueless item := by
  induction call generalizing state' with
  | ended step => exact ⟨_, _, .ended (turn_revalue g step), rfl⟩
  | stuck step => exact ⟨_, _, .stuck (turn_revalue g step), rfl⟩
  | unbalanced step => exact ⟨_, _, .unbalanced (turn_revalue g step), rfl⟩
  | token step kept => exact ⟨_, _, .token (turn_revalue g step) kept, rfl⟩
  | @discarded s t u state after f turns item step dropped later ih =>
      obtain ⟨item', after', call', same⟩ := ih ((f.revalue g).value state').2
      exact ⟨item', after', .discarded (turn_revalue g step) dropped call', same⟩

theorem nextTimes_revalue (l : Lexer σ) (n : Nat) (s : Scanner) (state : σ) (state' : τ) :
    (nextTimes (l.revalue g) n s state').1.map Item.valueless =
        (nextTimes l n s state).1.map Item.valueless ∧
      (nextTimes (l.revalue g) n s state').2.1 = (nextTimes l n s state).2.1 := by
  induction n generalizing s state state' with
  | zero => exact ⟨rfl, rfl⟩
  | succ n ih =>
      obtain ⟨turns, call⟩ := next_spec l s state
      obtain ⟨item', after', call', same⟩ := call.revalue g state'
      obtain ⟨items, last⟩ := ih (s.next l state).2.1 (s.next l state).2.2 after'
      simp only [nextTimes, call'.next_eq]
      exact ⟨by rw [List.map_cons, List.map_cons, same, items], last⟩

end Scanner

end Revalue

def noValue : Revaluing σ Unit := fun _ _ => none

abbrev Rule.bare (rule : Rule σ) : Rule Unit := rule.revalue noValue

abbrev Mode.bare (m : Mode σ) : Mode Unit := m.revalue noValue

abbrev Lexer.bare (l : Lexer σ) : Lexer Unit := l.revalue noValue

theorem Scanner.nextTimes_eq_of_bare {l : Lexer σ} {l' : Lexer τ} (same : l'.bare = l.bare) (n : Nat)
    (s : Scanner) (state : σ) (state' : τ) :
    (nextTimes l' n s state').1.map Item.valueless =
        (nextTimes l n s state).1.map Item.valueless ∧
      (nextTimes l' n s state').2.1 = (nextTimes l n s state).2.1 := by
  obtain ⟨items, last⟩ := nextTimes_revalue noValue l n s state ()
  obtain ⟨items', last'⟩ := nextTimes_revalue noValue l' n s state' ()
  have bare : l'.revalue noValue = l.revalue noValue := same
  rw [bare] at items' last'
  exact ⟨items'.symm.trans items, last'.symm.trans last⟩

/-! ## Value functions that keep a log -/

structure Call where
  kind : String
  text : String
  groups : Groups
  value : Value

/-- The function, which writes down its calls. -/
def ValueFn.logged (kind : String) (fn : ValueFn σ) : ValueFn (σ × List Call) :=
  fun text groups (state, log) =>
    let (value, after) := fn text groups state
    (value, after, log ++ [⟨kind, text, groups, value⟩])

def logging : Revaluing σ (σ × List Call) := fun kind value => value.map (ValueFn.logged kind)

abbrev Rule.logged (rule : Rule σ) : Rule (σ × List Call) := rule.revalue logging

abbrev Mode.logged (m : Mode σ) : Mode (σ × List Call) := m.revalue logging

abbrev Lexer.logged (l : Lexer σ) : Lexer (σ × List Call) := l.revalue logging

namespace Firing

/-- The call that is made for a match, if one is, and a value that it gives. -/
def call? (f : Firing σ) (value : Value) : Option Call :=
  if f.entry.discard then none
  else f.entry.value.map fun _ => ⟨f.entry.kind, .ofList f.chars, f.dispatch.slot.groups f.path, value⟩

/-- The call that a token of a match stands for, if the rule has a value function. -/
def callFor? (f : Firing σ) (token : Token) : Option Call :=
  f.entry.value.map fun _ => ⟨f.entry.kind, token.text, f.dispatch.slot.groups f.path, token.value⟩

theorem callFor?_token {f : Firing σ} (kept : f.entry.discard = false) (value : Value) :
    f.callFor? (f.token value) = f.call? value := by
  simp only [callFor?, call?, kept, Bool.false_eq_true, if_false, token]

theorem call?_of_discard {f : Firing σ} (dropped : f.entry.discard = true) (value : Value) :
    f.call? value = none := if_pos dropped

theorem isSome_call? {f : Firing σ} {value : Value} : (f.call? value).isSome = true ↔
    f.entry.discard = false ∧ f.entry.value.isSome = true := by
  rw [call?]
  cases f.entry.discard <;> simp

/-- Making the value of a match writes down its call, and makes no other difference. -/
theorem value_logged (f : Firing σ) (state : σ) (log : List Call) :
    (f.revalue logging).value (state, log) =
      ((f.value state).1, (f.value state).2, log ++ (f.call? (f.value state).1).toList) := by
  have discard : (f.revalue logging).entry.discard = f.entry.discard := rfl
  have function : (f.revalue logging).entry.value =
      f.entry.value.map (ValueFn.logged f.entry.kind) := rfl
  have chars : (f.revalue logging).chars = f.chars := rfl
  rw [value, value, call?, discard, function, chars]
  by_cases dropped : f.entry.discard = true
  · simp [dropped]
  · rw [if_neg dropped, if_neg dropped, if_neg dropped]
    cases f.entry.value with
    | none => simp
    | some fn => rfl

end Firing

def Turn.calls (state : σ) : Turn σ → List Call
  | .ended => []
  | .stuck _ => []
  | .unbalanced f => (f.call? (f.value state).1).toList
  | .consumed f => (f.call? (f.value state).1).toList

def callsOf (state : σ) : List (Turn σ) → List Call
  | [] => []
  | turn :: rest => turn.calls state ++ callsOf (turn.gives state).2 rest

theorem callsOf_append (state : σ) (turns more : List (Turn σ)) : callsOf state (turns ++ more) =
    callsOf state turns ++ callsOf (gives state turns).2 more := by
  induction turns generalizing state with
  | nil => rfl
  | cons turn turns ih =>
      have threaded : (gives state (turn :: turns)).2 = (gives (turn.gives state).2 turns).2 := rfl
      rw [List.cons_append, callsOf, callsOf, ih, threaded, List.append_assoc]

namespace Scanner

variable {l : Lexer σ} {s t : Scanner} {turns : List (Turn σ)} {item : Item} {items : List Item}
  {state after : σ} {f : Firing σ}

theorem Next.state_eq (call : Next l s state turns item t after) :
    (gives state turns).2 = after := by
  induction call with
  | discarded step dropped later ih => exact ih
  | _ => rfl

theorem Next.logged (call : Next l s state turns item t after) (log : List Call) :
    Next l.logged s (state, log) (turns.map (Turn.revalue logging)) item t
      (after, log ++ callsOf state turns) := by
  induction call generalizing log with
  | ended step =>
      rw [callsOf, callsOf, Turn.calls, List.append_nil, List.append_nil]
      exact .ended (turn_revalue logging step)
  | stuck step =>
      rw [callsOf, callsOf, Turn.calls, List.append_nil, List.append_nil]
      exact .stuck (turn_revalue logging step)
  | @unbalanced s t state f step =>
      have call' : Next l.logged s (state, log) _ _ t _ := .unbalanced (turn_revalue logging step)
      rw [f.value_logged] at call'
      rw [callsOf, callsOf, Turn.calls, List.append_nil]
      exact call'
  | @token s t state f step kept =>
      have call' : Next l.logged s (state, log) _ _ t _ :=
        .token (turn_revalue logging step) kept
      rw [f.value_logged] at call'
      rw [callsOf, callsOf, Turn.calls, List.append_nil]
      exact call'
  | @discarded s t u state after f turns item step dropped later ih =>
      refine .discarded (turn_revalue logging step) dropped ?_
      rw [f.value_logged, callsOf, ← List.append_assoc]
      exact ih _

theorem nextTimes_logged (calls : Calls l s state turns items t after) (log : List Call) :
    nextTimes l.logged items.length s (state, log) =
      (items, t, after, log ++ callsOf state turns) := by
  induction calls generalizing log with
  | nil s state =>
      rw [callsOf, List.append_nil]
      rfl
  | @cons s t u state after last turns more item items call later ih =>
      rw [callsOf_append, call.state_eq, ← List.append_assoc]
      simp only [List.length_cons, nextTimes, (call.logged log).next_eq, ih]

/-! ## Which calls these are -/

/-- The calls that the tokens of a run stand for, behind some matches. -/
def tokenCalls (earlier : List (Firing σ)) (turns : List (Turn σ)) (items : List Item) :
    List Call :=
  ((emitted earlier turns).zip (tokensOf items)).filterMap fun (e, token) => e.2.callFor? token

/-- A run never fails to resume a mode. -/
structure Balanced (turns : List (Turn σ)) (items : List Item) : Prop where
  turns : ∀ f, .unbalanced f ∉ turns
  items : ∀ kind line col, .error (.popOnEmptyStack kind line col) ∉ items

/-- A run ends with a match behind which no mode can be resumed: before it there are consumed matches
and tokens only, behind it there is nothing. -/
structure FailsAt (turns : List (Turn σ)) (items : List Item) (f : Firing σ) : Prop where
  turns_eq : ∃ before after, turns = before ++ .unbalanced f :: after ∧
    (∀ turn ∈ before, ∃ g, turn = .consumed g) ∧ ∀ turn ∈ after, turn = .ended
  items_eq : ∃ before after, items = before ++
      .error (.popOnEmptyStack f.entry.kind f.location.line f.location.col) :: after ∧
    (∀ item ∈ before, ∃ token, item = .ok (some token)) ∧ ∀ item ∈ after, item = .ok none

theorem FailsAt.eq_of_mem (fails : FailsAt turns items f) {g : Firing σ}
    (member : .unbalanced g ∈ turns) : g = f := by
  obtain ⟨before, after, rfl, consumed, ended⟩ := fails.turns_eq
  rcases List.mem_append.1 member with inside | inside
  · obtain ⟨h, same⟩ := consumed _ inside
    cases same
  · rcases List.mem_cons.1 inside with same | inside
    · exact Turn.unbalanced.inj same
    · cases ended _ inside

theorem FailsAt.mem (fails : FailsAt turns items f) : .unbalanced f ∈ turns := by
  obtain ⟨before, after, rfl, -⟩ := fails.turns_eq
  simp

theorem FailsAt.item_mem (fails : FailsAt turns items f) :
    .error (.popOnEmptyStack f.entry.kind f.location.line f.location.col) ∈ items := by
  obtain ⟨before, after, rfl, -⟩ := fails.items_eq
  simp

theorem Calls.of_done (calls : Calls l s state turns items t after) (done : s.done = true) :
    (∀ turn ∈ turns, turn = .ended) ∧ ∀ item ∈ items, item = .ok none := by
  induction calls with
  | nil s state => exact ⟨by simp, by simp⟩
  | @cons s t u state after last turns more item items call later ih =>
      have ended : Next l s state [.ended] (.ok none) s state := .ended (turn_of_done done)
      obtain rfl := ended.turns_unique call
      have given := ended.next_eq.symm.trans call.next_eq
      simp only [Prod.mk.injEq] at given
      obtain ⟨rfl, rfl, rfl⟩ := given
      obtain ⟨turns, items⟩ := ih done
      exact ⟨by simpa using turns, by simpa using items⟩

theorem callsOf_of_ended {turns : List (Turn σ)} (ended : ∀ turn ∈ turns, turn = .ended)
    (state : σ) (earlier : List (Firing σ)) :
    callsOf state turns = [] ∧ emitted earlier turns = [] := by
  induction turns with
  | nil => exact ⟨rfl, rfl⟩
  | cons turn turns ih =>
      obtain ⟨rfl, rest⟩ := List.forall_mem_cons.1 ended
      exact ih rest

theorem callsOf_of_discard (dropped : f.entry.discard = true) (state : σ)
    (turns : List (Turn σ)) : callsOf state (.consumed f :: turns) = callsOf state turns := by
  rw [callsOf, Turn.calls, Firing.call?_of_discard dropped, Turn.gives, value_of_discard dropped]
  rfl

/-- What a call for the next token comes to, and which calls of value functions it makes. -/
inductive Account (state : σ) (earlier : List (Firing σ)) : List (Turn σ) → Item → Prop
  | token {turns : List (Turn σ)} {token : Token}
      (consumed : ∀ turn ∈ turns, ∃ f, turn = .consumed f)
      (calls : callsOf state turns = tokenCalls earlier turns [.ok (some token)]) :
      Account state earlier turns (.ok (some token))
  | unbalanced (before : List (Turn σ)) {f : Firing σ}
      (consumed : ∀ turn ∈ before, ∃ g, turn = .consumed g)
      (calls : callsOf state (before ++ [.unbalanced f]) = (f.call? (f.value state).1).toList) :
      Account state earlier (before ++ [.unbalanced f])
        (.error (.popOnEmptyStack f.entry.kind f.location.line f.location.col))
  | other {turns : List (Turn σ)} {item : Item} (balanced : Balanced turns [item])
      (calls : callsOf state turns = []) (without : ∀ token, item ≠ .ok (some token)) :
      Account state earlier turns item

theorem Next.account (call : Next l s state turns item t after) (earlier : List (Firing σ)) :
    Account state earlier turns item := by
  induction call generalizing earlier with
  | ended step => exact .other ⟨by simp, by simp⟩ rfl nofun
  | stuck step => exact .other ⟨by simp, by simp⟩ rfl nofun
  | @unbalanced s t state f step =>
      refine .unbalanced [] (by simp) ?_
      rw [List.nil_append, callsOf, callsOf, List.append_nil, Turn.calls]
  | @token s t state f step kept =>
      have behind : emitted earlier [.consumed f] = [(earlier, f)] := by
        rw [emitted, if_neg (Bool.eq_false_iff.1 kept), emitted]
      have given : tokensOf [.ok (some (f.token (f.value state).1))] =
          [f.token (f.value state).1] := rfl
      refine .token (by simp) ?_
      rw [callsOf, callsOf, List.append_nil, Turn.calls, tokenCalls, behind, given,
        List.zip_cons_cons, List.zip_nil_left, List.filterMap_cons]
      dsimp only
      rw [Firing.callFor?_token kept]
      cases f.call? (f.value state).1 <;> rfl
  | @discarded s t u state after f turns item step dropped later ih =>
      have account := ih (earlier ++ [f])
      rw [value_of_discard dropped] at account
      cases account with
      | token consumed calls =>
          refine .token (List.forall_mem_cons.2 ⟨⟨f, rfl⟩, consumed⟩) ?_
          rw [callsOf_of_discard dropped, calls, tokenCalls, tokenCalls, emitted, if_pos dropped]
      | unbalanced before consumed calls =>
          refine .unbalanced (.consumed f :: before)
            (List.forall_mem_cons.2 ⟨⟨f, rfl⟩, consumed⟩) ?_
          rw [List.cons_append, callsOf_of_discard dropped, calls]
      | other balanced calls without =>
          refine .other ⟨?_, balanced.items⟩ ?_ without
          · intro g member
            rcases List.mem_cons.1 member with same | member
            · cases same
            · exact balanced.turns g member
          · rw [callsOf_of_discard dropped, calls]

theorem tokenCalls_cons (call : Next l s state turns item t after) (earlier : List (Firing σ))
    (more : List (Turn σ)) (items : List Item) :
    tokenCalls earlier (turns ++ more) (item :: items) =
      tokenCalls earlier turns [item] ++ tokenCalls (earlier ++ matched turns) more items := by
  have apart : tokensOf (item :: items) = tokensOf [item] ++ tokensOf items :=
    List.filterMap_append (l := [item])
  have lengths := (call.emits earlier).length_eq
  rw [tokenCalls, tokenCalls, tokenCalls, emitted_append, apart, List.zip_append lengths,
    List.filterMap_append]

/-- The calls that a run makes, behind those for its tokens. -/
inductive Rest (turns : List (Turn σ)) (items : List Item) : List Call → Prop
  | none (balanced : Balanced turns items) : Rest turns items []
  | failed {f : Firing σ} (fails : FailsAt turns items f) (value : Value) :
      Rest turns items (f.call? value).toList

theorem Rest.cons_token {more : List (Turn σ)} {token : Token} {calls : List Call}
    (consumed : ∀ turn ∈ turns, ∃ f, turn = .consumed f) (rest : Rest more items calls) :
    Rest (turns ++ more) (.ok (some token) :: items) calls := by
  cases rest with
  | none balanced =>
      refine .none ⟨?_, ?_⟩
      · intro f member
        rcases List.mem_append.1 member with member | member
        · obtain ⟨g, same⟩ := consumed _ member
          cases same
        · exact balanced.turns f member
      · intro kind line col member
        rcases List.mem_cons.1 member with same | member
        · cases same
        · exact balanced.items kind line col member
  | @failed f fails value =>
      obtain ⟨⟨before, after, rfl, further, ended⟩, ⟨first, last, rfl, tokens, nothing⟩⟩ := fails
      refine .failed ⟨⟨turns ++ before, after, ?_, ?_, ended⟩,
        ⟨.ok (some token) :: first, last, rfl, ?_, nothing⟩⟩ value
      · rw [List.append_assoc]
      · exact List.forall_mem_append.2 ⟨consumed, further⟩
      · exact List.forall_mem_cons.2 ⟨⟨token, rfl⟩, tokens⟩

theorem Calls.account (calls : Calls l s state turns items t after) (earlier : List (Firing σ)) :
    ∃ rest, callsOf state turns = tokenCalls earlier turns items ++ rest ∧
      Rest turns items rest := by
  induction calls generalizing earlier with
  | nil s state => exact ⟨[], rfl, .none ⟨by simp, by simp⟩⟩
  | @cons s t u state after last turns more item items call later ih =>
      rw [callsOf_append, call.state_eq, tokenCalls_cons call]
      -- Behind a call that gives no token there is nothing.
      have stopped (without : ∀ token, item ≠ .ok (some token)) :
          (∀ turn ∈ more, turn = .ended) ∧ (∀ item ∈ items, item = .ok none) ∧
            callsOf after more = [] ∧ tokenCalls (earlier ++ matched turns) more items = [] ∧
              tokenCalls earlier turns [item] = [] := by
        obtain ⟨ended, nothing⟩ := later.of_done (call.done_of_no_token without)
        obtain ⟨noCalls, noTokens⟩ := callsOf_of_ended ended after (earlier ++ matched turns)
        have noToken : tokensOf [item] = [] := by
          match item, without with
          | .ok none, _ => rfl
          | .ok (some token), without => exact absurd rfl (without token)
          | .error e, _ => rfl
        refine ⟨ended, nothing, noCalls, ?_, ?_⟩
        · rw [tokenCalls, noTokens, List.zip_nil_left, List.filterMap_nil]
        · rw [tokenCalls, noToken, List.zip_nil_right, List.filterMap_nil]
      cases call.account earlier with
      | token consumed own =>
          obtain ⟨rest, others, kind⟩ := ih (earlier ++ matched turns)
          refine ⟨rest, ?_, kind.cons_token consumed⟩
          rw [own, others, List.append_assoc]
      | @unbalanced before f consumed own =>
          obtain ⟨ended, nothing, noCalls, noTokens, noToken⟩ := stopped nofun
          refine ⟨(f.call? (f.value state).1).toList, ?_, .failed ⟨?_, ?_⟩ _⟩
          · rw [own, noCalls, noTokens, noToken, List.append_nil]
            rfl
          · refine ⟨before, more, ?_, consumed, ended⟩
            rw [List.append_assoc, List.singleton_append]
          · exact ⟨[], items, rfl, by simp, nothing⟩
      | other balanced own without =>
          obtain ⟨ended, nothing, noCalls, noTokens, noToken⟩ := stopped without
          refine ⟨[], ?_, .none ⟨?_, ?_⟩⟩
          · rw [own, noCalls, noTokens, noToken]
            rfl
          · intro f member
            rcases List.mem_append.1 member with member | member
            · exact balanced.turns f member
            · cases ended _ member
          · intro kind line col member
            rcases List.mem_cons.1 member with rfl | member
            · exact balanced.items kind line col List.mem_cons_self
            · cases nothing _ member

/-- The calls of value functions that a run makes. -/
structure CallsMade (turns : List (Turn σ)) (items : List Item) (calls : List Call) : Prop where
  /-- The tokens are made of the matches that are not discarded, in order. -/
  made : List.Forall₂ MadeOf (emitted [] turns) (tokensOf items)
  /-- Each token has its call if its rule has a value function, and at most one call is left, for the
  match at which the run fails. -/
  ordered : ∃ rest, calls = tokenCalls [] turns items ++ rest ∧ rest.length ≤ 1 ∧
    (rest ≠ [] ↔ ∃ f, FailsAt turns items f ∧ f.entry.discard = false ∧
      f.entry.value.isSome = true) ∧
    ∀ f, FailsAt turns items f → ∃ value, rest = (f.call? value).toList
  fails : (∃ kind line col, .error (.popOnEmptyStack kind line col) ∈ items) ↔
    ∃ f, FailsAt turns items f

theorem Rest.length_le {calls : List Call} (rest : Rest turns items calls) :
    calls.length ≤ 1 := by
  cases rest with
  | none balanced => exact Nat.zero_le 1
  | failed fails value => exact Option.length_toList_le

theorem Rest.of_failsAt {calls : List Call} (rest : Rest turns items calls)
    (fails : FailsAt turns items f) : ∃ value, calls = (f.call? value).toList := by
  cases rest with
  | none balanced => exact absurd fails.mem (balanced.turns f)
  | failed other value =>
      rw [fails.eq_of_mem other.mem]
      exact ⟨value, rfl⟩

theorem Rest.ne_nil_iff {calls : List Call} (rest : Rest turns items calls) :
    calls ≠ [] ↔ ∃ f, FailsAt turns items f ∧ f.entry.discard = false ∧
      f.entry.value.isSome = true := by
  have some_call {f : Firing σ} {value : Value} : (f.call? value).toList ≠ [] ↔
      f.entry.discard = false ∧ f.entry.value.isSome = true := by
    rw [← Firing.isSome_call?]
    cases f.call? value <;> simp
  constructor
  · intro some_rest
    cases rest with
    | none balanced => exact absurd rfl some_rest
    | failed fails value => exact ⟨_, fails, some_call.1 some_rest⟩
  · rintro ⟨f, fails, function⟩
    obtain ⟨value, rfl⟩ := rest.of_failsAt fails
    exact some_call.2 function

theorem Calls.callsMade (calls : Calls l s state turns items t after) :
    CallsMade turns items (callsOf state turns) := by
  obtain ⟨rest, split, kind⟩ := calls.account []
  refine ⟨calls.emits [], ⟨rest, split, kind.length_le, kind.ne_nil_iff, ?_⟩, ?_⟩
  · intro f fails
    exact kind.of_failsAt fails
  · constructor
    · rintro ⟨name, line, col, member⟩
      cases kind with
      | none balanced => exact absurd member (balanced.items name line col)
      | failed fails value => exact ⟨_, fails⟩
    · rintro ⟨f, fails⟩
      exact ⟨_, _, _, fails.item_mem⟩

end Scanner

/-! ## What is given to rules gets into the lexer -/

theorem exists_ok_of_map_eq {ε α β γ : Type} {x : Except ε α} {y : Except ε β} {f : α → γ}
    {g : β → γ} (same : y.map g = x.map f) {a : α} (ok : x = .ok a) :
    ∃ b, y = .ok b ∧ g b = f a := by
  rw [ok] at same
  cases y with
  | error e => cases same
  | ok b => exact ⟨b, rfl, Except.ok.inj same⟩

/-- A lexer has the value functions of the modes or rules that it was compiled from: if these log
their calls, so does the lexer, and if they have other functions, so has the lexer. -/
structure Lexer.TakesValues (l : Lexer σ) : Prop where
  logged : ∀ modes, ofModes modes = .ok l → ofModes (modes.map Mode.logged) = .ok l.logged
  loggedRules : ∀ rules, ofRules rules = .ok l → ofRules (rules.map Rule.logged) = .ok l.logged
  others : ∀ (τ : Type) (modes : List (Mode σ)) (modes' : List (Mode τ)), ofModes modes = .ok l →
    modes'.map Mode.bare = modes.map Mode.bare → ∃ l', ofModes modes' = .ok l' ∧ l'.bare = l.bare
  otherRules : ∀ (τ : Type) (rules : List (Rule σ)) (rules' : List (Rule τ)),
    ofRules rules = .ok l → rules'.map Rule.bare = rules.map Rule.bare →
      ∃ l', ofRules rules' = .ok l' ∧ l'.bare = l.bare

theorem Lexer.takesValues (l : Lexer σ) : l.TakesValues := by
  refine ⟨?_, ?_, ?_, ?_⟩
  · intro modes ok
    rw [ofModes_revalue, ok]
    rfl
  · intro rules ok
    rw [ofRules_revalue, ok]
    rfl
  · intro τ modes modes' ok same
    refine exists_ok_of_map_eq ?_ ok
    rw [← ofModes_revalue, ← ofModes_revalue, same]
  · intro τ rules rules' ok same
    refine exists_ok_of_map_eq ?_ ok
    rw [← ofRules_revalue, ← ofRules_revalue, same]

namespace Scanner

theorem length_nextTimes (l : Lexer σ) (n : Nat) (s : Scanner) (state : σ) :
    (nextTimes l n s state).1.length = n := by
  induction n generalizing s state with
  | zero => rfl
  | succ n ih => rw [nextTimes, List.length_cons, ih]

/-- Take any lexer and any state of a scanner, and ask for the next token a number of times.  If all
value functions write down their calls, then everything goes as without that, and the calls are those
of the tokens in order and at most one more, at a match behind which no mode can be resumed.  A
scanner that has ended calls nothing, and no more does one that is reset.

A lexer that differs in value functions alone gives the same but for the values of the tokens, and
leaves the scanner in the same state.  Compiling puts value functions where they were given. -/
theorem nextTimes_calls (l : Lexer σ) (n : Nat) (s : Scanner) (state : σ) (log : List Call) :
    (∃ turns calls,
      Calls l s state turns (nextTimes l n s state).1 (nextTimes l n s state).2.1
        (nextTimes l n s state).2.2 ∧
      CallsMade turns (nextTimes l n s state).1 calls ∧
      nextTimes l.logged n s (state, log) = ((nextTimes l n s state).1,
        (nextTimes l n s state).2.1, (nextTimes l n s state).2.2, log ++ calls)) ∧
    (s.done = true → s.next l.logged (state, log) = (.ok none, s, state, log)) ∧
    (∀ text checkpoint,
      (s.answer l.logged (state, log) (.reset text checkpoint)).2.2 = (state, log)) ∧
    (∀ (τ : Type) (l' : Lexer τ) (state' : τ), l'.bare = l.bare →
      (nextTimes l' n s state').1.map Item.valueless =
          (nextTimes l n s state).1.map Item.valueless ∧
        (nextTimes l' n s state').2.1 = (nextTimes l n s state).2.1) ∧
    l.TakesValues := by
  refine ⟨?_, ?_, ?_, ?_, l.takesValues⟩
  · obtain ⟨turns, calls⟩ := nextTimes_spec l n s state
    refine ⟨turns, callsOf state turns, calls, calls.callsMade, ?_⟩
    have logged := nextTimes_logged calls log
    rwa [length_nextTimes] at logged
  · intro done
    exact next_of_done done (state, log)
  · intro text checkpoint
    rfl
  · intro τ l' state' same
    exact nextTimes_eq_of_bare same n s state state'

def countCalls : ValueFn Nat := fun _ _ count => (.integer count, count + 1)

def countedRules : List (Rule Nat) :=
  [(Rule.regex "word" "[a-z]+").value countCalls,
    ((Rule.literal "blank" " ").value countCalls).discard,
    ((Rule.literal "close" ")").value countCalls).pop]

/-- Two words are counted and the blank is not, nor is anything behind the failure; the bracket, at
which the scan fails, is. -/
theorem countedRules_calls : ∃ l, Lexer.ofRules countedRules = .ok l ∧
    ∃ (turns : List (Turn Nat)) (calls : List Call),
    CallsMade turns (nextTimes l 4 (.start "a b) c".toList) 0).1 calls ∧
      (nextTimes l.logged 4 (.start "a b) c".toList) (0, [])).2.2 = (3, calls) ∧
      calls.map Call.text = ["a", "b", ")"] ∧
      (nextTimes l 4 (.start "a b) c".toList) 0).2.1.next l.logged (3, calls) =
        (.ok none, (nextTimes l 4 (.start "a b) c".toList) 0).2.1, 3, calls) ∧
      Lexer.ofRules (countedRules.map Rule.logged) = .ok l.logged := by
  obtain ⟨l, ok, run⟩ := exists_of_any (x := Lexer.ofRules countedRules)
    (p := fun l => (nextTimes l 4 (.start "a b) c".toList) 0).2.1.done &&
      (nextTimes l 4 (.start "a b) c".toList) 0).2.2 = 3 &&
      (nextTimes l.logged 4 (.start "a b) c".toList) (0, [])).2.2.2.map Call.text =
        ["a", "b", ")"])
    (by decide)
  simp only [Bool.and_eq_true, decide_eq_true_eq] at run
  obtain ⟨⟨done, count⟩, texts⟩ := run
  obtain ⟨⟨turns, calls, -, made, logged⟩, -, -, -, takes⟩ :=
    nextTimes_calls l 4 (.start "a b) c".toList) 0 []
  obtain ⟨-, idle, -⟩ := nextTimes_calls l 0 (nextTimes l 4 (.start "a b) c".toList) 0).2.1 3 calls
  rw [logged, List.nil_append] at texts
  rw [count, List.nil_append] at logged
  refine ⟨l, ok, turns, calls, made, ?_, texts, idle done, takes.loggedRules _ ok⟩
  rw [logged]

end Scanner

end ModalLexer
