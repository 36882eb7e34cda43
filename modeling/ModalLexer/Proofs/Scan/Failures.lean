import ModalLexer.Proofs.Scan.Resume

/-! # When a scan fails

A call for the next token passes over discarded matches and then meets one more match, or none.  It
fails with that match if it is empty and must not be consumed, or if it resumes a mode and none is
suspended (`Scanner.Reaches.next_failures`).  Both conditions are told from the rule of the match
and from the matches since the scanner was bound to its text, not from the mark it carries. -/
set_option autoImplicit false
namespace ModalLexer.Scanner

variable {σ : Type} {l : Lexer σ} {modes : List (Mode σ)} {s t u : Scanner}
  {gs : List (Firing σ)} {f : Firing σ} {rule : Rule σ} {turns : List (Turn σ)} {text : List Char}
  {state after : σ} {item : Item}

structure Skips (l : Lexer σ) (s : Scanner) (gs : List (Firing σ)) (t : Scanner) : Prop where
  trail : Trail l s (gs.map .consumed) t
  dropped : ∀ g ∈ gs, g.entry.discard = true

theorem value_of_discard (dropped : f.entry.discard = true) (state : σ) :
    (f.value state).2 = state := by
  rw [Firing.value, if_pos dropped]

theorem Skips.refl (l : Lexer σ) (s : Scanner) : Skips l s [] s :=
  ⟨.nil s, fun _ member => absurd member List.not_mem_nil⟩

theorem Skips.cons (step : s.turn l = (.consumed f, t)) (dropped : f.entry.discard = true)
    (later : Skips l t gs u) : Skips l s (f :: gs) u :=
  ⟨.cons step later.trail, List.forall_mem_cons.2 ⟨dropped, later.dropped⟩⟩

theorem Next.exists_skips (call : Next l s state turns item t after) :
    ∃ gs u last, Skips l s gs u ∧ Next l u state [last] item t after := by
  induction call with
  | ended step => exact ⟨[], _, _, .refl l _, .ended step⟩
  | stuck step => exact ⟨[], _, _, .refl l _, .stuck step⟩
  | unbalanced step => exact ⟨[], _, _, .refl l _, .unbalanced step⟩
  | token step kept => exact ⟨[], _, _, .refl l _, .token step kept⟩
  | discarded step dropped later ih =>
      obtain ⟨gs, u, last, skips, call⟩ := ih
      rw [value_of_discard dropped] at call
      exact ⟨_ :: gs, u, last, skips.cons step dropped, call⟩

theorem Skips.next_behind (skips : Skips l s gs u) (call : Next l u state turns item t after) :
    Next l s state (gs.map .consumed ++ turns) item t after := by
  induction gs generalizing s with
  | nil =>
      cases skips.trail with
      | nil => exact call
  | cons g gs ih =>
      cases skips.trail with
      | cons step later =>
          have dropped := List.forall_mem_cons.1 skips.dropped
          refine .discarded step dropped.1 ?_
          rw [value_of_discard dropped.1]
          exact ih ⟨later, dropped.2⟩

theorem Skips.next_eq (skips : Skips l s gs u) (state : σ) : s.next l state = u.next l state := by
  obtain ⟨turns, call⟩ := next_spec l u state
  exact (skips.next_behind call).next_eq

/-- The next match, with the rule of the active mode that it is a match of. -/
structure MeetsRule (modes : List (Mode σ)) (l : Lexer σ) (s : Scanner) (f : Firing σ)
    (rule : Rule σ) : Prop where
  meets : s.Meets l f
  active : ∃ m, modes[s.active]? = some m ∧ rule ∈ m.rules
  follows : ∃ resolve, f.entry.Follows resolve rule

theorem Meets.exists_rule (compiled : l.CompiledFrom modes) (meets : s.Meets l f) :
    ∃ rule, s.MeetsRule modes l f rule := by
  obtain ⟨mode, active, finds, -⟩ := firing?_cases meets.found
  obtain ⟨m, given, resolve, made, -⟩ :=
    exists_getElem?_of_forall₂ (r := flip (Lexer.Resolves modes)) (.flip compiled.resolves) active
  obtain ⟨rule, inRules, follows⟩ := exists_of_forall₂_right
    (CompiledMode.compile_entries made).1 (CompiledMode.entry_mem_of_dispatch? finds.dispatched)
  exact ⟨rule, meets, ⟨m, given, inRules⟩, resolve, follows⟩

/-- A match may not be consumed behind some turns: it is empty, and its rule stays in the mode or
the last match before was empty as well, in the same place. -/
def StuckBehind (turns : List (Turn σ)) (rule : Rule σ) (f : Firing σ) : Prop :=
  f.chars = [] ∧ (rule.options.transition = .none ∨
    ∃ g, (matched turns).getLast? = some g ∧ g.chars = [] ∧ g.offset = f.offset)

theorem lastEmpty?_eq_some_iff {offset : Nat} : lastEmpty? turns = some offset ↔
    ∃ g, (matched turns).getLast? = some g ∧ g.chars = [] ∧ g.offset = offset := by
  rw [lastEmpty?, Option.bind_eq_some_iff]
  simp only [Option.ite_none_right_eq_some, List.isEmpty_iff, Option.some.injEq]

/-- The mark and the rule say whether a match is stuck. -/
theorem MeetsRule.isStuck_iff (meets : s.MeetsRule modes l f rule)
    (marked : s.stalled = lastEmpty? turns) : s.isStuck f = true ↔ StuckBehind turns rule f := by
  obtain ⟨resolve, follows⟩ := meets.follows
  obtain ⟨mode, -, -, offset, -⟩ := firing?_cases meets.meets.found
  have stays : f.entry.transitions = false ↔ rule.options.transition = .none := by
    rw [← Bool.not_eq_true, follows.transitions_iff, not_not]
  simp only [isStuck, StuckBehind, Bool.and_eq_true, Bool.or_eq_true, Bool.not_eq_true',
    decide_eq_true_eq, List.isEmpty_iff, stays, marked, ← offset, lastEmpty?_eq_some_iff]

theorem jump?_eq_none_iff {jump : Jump} : s.jump? jump = none ↔ jump = .pop ∧ s.stack = [] := by
  cases jump with
  | pop =>
      rw [jump?]
      cases s.stack <;> simp
  | _ => simp [jump?]

theorem MeetsRule.jump_eq_pop_iff (meets : s.MeetsRule modes l f rule) :
    f.entry.jump = .pop ↔ rule.options.transition = .pop := by
  obtain ⟨resolve, follows⟩ := meets.follows
  have resolved := CompiledMode.resolved_of_jump follows.jump
  revert resolved
  generalize f.entry.jump = jump
  generalize rule.options.transition = way
  intro resolved
  cases resolved <;> simp

theorem MeetsRule.jump?_eq_none_iff (meets : s.MeetsRule modes l f rule) :
    (s.moveBehind f).jump? f.entry.jump = none ↔ rule.options.transition = .pop ∧ s.stack = [] := by
  rw [Scanner.jump?_eq_none_iff, meets.jump_eq_pop_iff, moveBehind]

theorem MeetsRule.kind_eq (meets : s.MeetsRule modes l f rule) : f.entry.kind = rule.name := by
  obtain ⟨resolve, follows⟩ := meets.follows
  exact follows.kind

theorem Meets.location_eq (meets : s.Meets l f) : f.location = s.location := by
  obtain ⟨mode, -, -, -, location⟩ := firing?_cases meets.found
  exact location

section Errors

variable {kind : String} {line col : UInt64}

/-- The match that makes a call fail because it is stuck. -/
theorem Next.emptyMatch_cases
    (call : Next l s state turns (.error (.emptyMatch kind line col)) t after) :
    ∃ gs u f, Skips l s gs u ∧ u.Meets l f ∧ u.isStuck f = true ∧ kind = f.entry.kind ∧
      line = u.location.line ∧ col = u.location.col := by
  obtain ⟨gs, u, last, skips, call⟩ := call.exists_skips
  cases call with
  | stuck step =>
      cases turn_cases step with
      | stuck meets stuck =>
          refine ⟨gs, u, _, skips, meets, stuck, rfl, ?_, ?_⟩
          all_goals rw [meets.location_eq]
  | discarded step dropped later => cases later

/-- The match that makes a call fail because it resumes a mode and none is suspended. -/
theorem Next.popOnEmptyStack_cases
    (call : Next l s state turns (.error (.popOnEmptyStack kind line col)) t after) :
    ∃ gs u f, Skips l s gs u ∧ u.Meets l f ∧ u.isStuck f = false ∧
      (u.moveBehind f).jump? f.entry.jump = none ∧ kind = f.entry.kind ∧
      line = u.location.line ∧ col = u.location.col := by
  obtain ⟨gs, u, last, skips, call⟩ := call.exists_skips
  cases call with
  | unbalanced step =>
      cases turn_cases step with
      | unbalanced meets free jumped =>
          refine ⟨gs, u, _, skips, meets, free, jumped, rfl, ?_, ?_⟩
          all_goals rw [meets.location_eq]
  | discarded step dropped later => cases later

end Errors

/-- When a call for the next token fails, with what error, and what is left behind; `turns` are
those taken since the scanner was bound to its text. -/
structure Failures (modes : List (Mode σ)) (l : Lexer σ) (turns : List (Turn σ)) (s : Scanner)
    (state : σ) : Prop where
  emptyMatch : ∀ kind line col, (s.next l state).1 = .error (.emptyMatch kind line col) ↔
    ∃ gs u f rule, Skips l s gs u ∧ u.MeetsRule modes l f rule ∧
      StuckBehind (turns ++ gs.map .consumed) rule f ∧
      kind = rule.name ∧ line = u.location.line ∧ col = u.location.col
  popOnEmptyStack : ∀ kind line col,
    (s.next l state).1 = .error (.popOnEmptyStack kind line col) ↔
      ∃ gs u f rule, Skips l s gs u ∧ u.MeetsRule modes l f rule ∧
        ¬ StuckBehind (turns ++ gs.map .consumed) rule f ∧
        rule.options.transition = .pop ∧ u.stack = [] ∧
        kind = rule.name ∧ line = u.location.line ∧ col = u.location.col
  /-- The scanner stays in front of a match that is stuck. -/
  behindEmptyMatch : ∀ gs u f rule, Skips l s gs u → u.MeetsRule modes l f rule →
    StuckBehind (turns ++ gs.map .consumed) rule f →
    (s.next l state).2.1 = { u with done := true }
  /-- The scanner has moved behind a match that resumes no mode. -/
  behindPop : ∀ gs u f rule, Skips l s gs u → u.MeetsRule modes l f rule →
    ¬ StuckBehind (turns ++ gs.map .consumed) rule f →
    rule.options.transition = .pop → u.stack = [] →
    (s.next l state).2.1.active = u.active ∧ (s.next l state).2.1.stack = [] ∧
      (s.next l state).2.1.spot = f.dispatch.extent.stop ∧
      (s.next l state).2.1.location = (u.location.advance f.chars rule.options.lineBreaks).1 ∧
      (s.next l state).2.1.text = u.text ∧ (s.next l state).2.1.done = true
  /-- A scanner that cannot be turned to another place only ends. -/
  refused : ∀ (text : List Char) (checkpoint : Option Checkpoint) (e : ScanError) (t : Scanner),
    s.reset text checkpoint = (.error e, t) → t = { s with done := true }

section Calls

variable (reached : Reaches l text turns s) (skips : Skips l s gs u)
  (meets : u.MeetsRule modes l f rule)

include reached skips

/-- The mark tells of the matches passed over as well. -/
theorem Reaches.stalled_behind : u.stalled = lastEmpty? (turns ++ gs.map .consumed) :=
  skips.trail.stalled_eq reached.stalled_eq

include meets

theorem Reaches.next_of_stuck (stuck : StuckBehind (turns ++ gs.map .consumed) rule f)
    (state : σ) : s.next l state =
      (.error (.emptyMatch rule.name u.location.line u.location.col), u.halt, state) := by
  have held := (meets.isStuck_iff (reached.stalled_behind skips)).2 stuck
  rw [skips.next_eq, ← meets.kind_eq, ← meets.meets.location_eq]
  have call : Next l u state _ _ u.halt state :=
    .stuck (TurnCases.stuck meets.meets held).turn_eq
  exact call.next_eq

theorem Reaches.next_of_unbalanced (free : ¬ StuckBehind (turns ++ gs.map .consumed) rule f)
    (pops : rule.options.transition = .pop) (empty : u.stack = []) (state : σ) :
    s.next l state = (.error (.popOnEmptyStack rule.name u.location.line u.location.col),
      (u.moveBehind f).halt, (f.value state).2) := by
  rw [← meets.isStuck_iff (reached.stalled_behind skips), Bool.not_eq_true] at free
  have jumped := meets.jump?_eq_none_iff.2 ⟨pops, empty⟩
  rw [skips.next_eq, ← meets.kind_eq, ← meets.meets.location_eq]
  have call : Next l u state _ _ (u.moveBehind f).halt (f.value state).2 :=
    .unbalanced (TurnCases.unbalanced meets.meets free jumped).turn_eq
  exact call.next_eq

end Calls

theorem MeetsRule.location_moveBehind (meets : s.MeetsRule modes l f rule) :
    (s.moveBehind f).location =
      (s.location.advance f.chars rule.options.lineBreaks).1 := by
  obtain ⟨resolve, follows⟩ := meets.follows
  rw [← follows.lineBreaks, ← meets.meets.location_eq]
  rfl

/-- In every state that a scanner can get to, a call fails just with the matches told above. -/
theorem Reaches.next_failures (compiled : l.CompiledFrom modes) (reached : Reaches l text turns s)
    (state : σ) : s.Failures modes l turns state := by
  obtain ⟨taken, call⟩ := next_spec l s state
  refine ⟨fun kind line col => ⟨?_, ?_⟩, fun kind line col => ⟨?_, ?_⟩, ?_, ?_,
    fun text checkpoint e t refused => reset_error_cases refused⟩
  -- The mark stands for the history: it tells whether the last match was empty and ended here.
  · intro failed
    rw [failed] at call
    obtain ⟨gs, u, f, skips, meets, stuck, rfl, line_eq, col_eq⟩ := call.emptyMatch_cases
    obtain ⟨rule, ruled⟩ := meets.exists_rule compiled
    have held := (ruled.isStuck_iff (reached.stalled_behind skips)).1 stuck
    exact ⟨gs, u, f, rule, skips, ruled, held, ruled.kind_eq, line_eq, col_eq⟩
  · rintro ⟨gs, u, f, rule, skips, meets, stuck, rfl, rfl, rfl⟩
    rw [reached.next_of_stuck skips meets stuck]
  · intro failed
    rw [failed] at call
    obtain ⟨gs, u, f, skips, meets, free, jumped, rfl, line_eq, col_eq⟩ :=
      call.popOnEmptyStack_cases
    obtain ⟨rule, ruled⟩ := meets.exists_rule compiled
    obtain ⟨pops, empty⟩ := ruled.jump?_eq_none_iff.1 jumped
    rw [← Bool.not_eq_true, ruled.isStuck_iff (reached.stalled_behind skips)] at free
    exact ⟨gs, u, f, rule, skips, ruled, free, pops, empty, ruled.kind_eq, line_eq, col_eq⟩
  · rintro ⟨gs, u, f, rule, skips, meets, free, pops, empty, rfl, rfl, rfl⟩
    rw [reached.next_of_unbalanced skips meets free pops empty]
  · intro gs u f rule skips meets stuck
    rw [reached.next_of_stuck skips meets stuck, halt]
  · intro gs u f rule skips meets free pops empty
    rw [reached.next_of_unbalanced skips meets free pops empty]
    exact ⟨rfl, empty, rfl, meets.location_moveBehind, meets.meets.text_moveBehind, rfl⟩

def Item.failsWith (e : ScanError) : Item → Bool
  | .ok _ => false
  | .error e' => e' == e

theorem Item.failsWith_iff {e : ScanError} : item.failsWith e = true ↔ item = .error e := by
  cases item with
  | ok token => exact ⟨nofun, nofun⟩
  | error e' => rw [failsWith, beq_iff_eq, Except.error.injEq]

def unopenedModes : List (Mode Unit) :=
  [⟨"main", [(Rule.regex "blank" " +").discard, (Rule.literal "close" ">").pop,
    .regex "letters" "[a-z]*"]⟩]

/-- Behind the blank, one text fails at a bracket and the other at an empty match. -/
theorem unopenedModes_failures : ∃ l, Lexer.ofModes unopenedModes = .ok l ∧
    (∀ text, (Scanner.start text).Failures unopenedModes l [] ()) ∧
    ((Scanner.start " >".toList).next l ()).1 = .error (.popOnEmptyStack "close" 1 2) ∧
    ((Scanner.start " 1".toList).next l ()).1 = .error (.emptyMatch "letters" 1 2) := by
  obtain ⟨l, ok, fails⟩ := exists_of_any (x := Lexer.ofModes unopenedModes)
    (p := fun l =>
      ((Scanner.start " >".toList).next l ()).1.failsWith (.popOnEmptyStack "close" 1 2) &&
      ((Scanner.start " 1".toList).next l ()).1.failsWith (.emptyMatch "letters" 1 2))
    (by decide)
  rw [Bool.and_eq_true, Item.failsWith_iff, Item.failsWith_iff] at fails
  exact ⟨l, ok, fun text => Reaches.next_failures (.modes ok) (.scan text) (), fails⟩

end ModalLexer.Scanner
