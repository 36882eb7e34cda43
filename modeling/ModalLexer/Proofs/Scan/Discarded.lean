import ModalLexer.Proofs.Mode.Numbers
import ModalLexer.Proofs.Scan.Items
import ModalLexer.Proofs.Scan.Mirrored
import ModalLexer.Proofs.Scan.Resume

/-! # Discarding only hides tokens

If no rule of a lexer discards its matches, then each turn that consumes a match gives a token.  A
lexer of the same rules, some of which discard their matches, takes the same turns and gives what is
left without the tokens of those rules (`Scanner.drains_revealed`). -/
set_option autoImplicit false
namespace ModalLexer

variable {σ : Type}

def Rule.reveal (rule : Rule σ) : Rule σ :=
  { rule with options := { rule.options with discard := false } }

def Mode.reveal (m : Mode σ) : Mode σ := { m with rules := m.rules.map Rule.reveal }

theorem Mode.name_reveal (m : Mode σ) : m.reveal.name = m.name := rfl

def Entry.reveal (e : Entry σ) : Entry σ := { e with discard := false }

theorem Rule.alike_reveal (rule : Rule σ) : rule.Alike rule.reveal := ⟨rfl, rfl, rfl⟩

theorem Entry.reveal_eq_self {e : Entry σ} (kept : e.discard = false) : e.reveal = e := by
  rw [reveal, ← kept]

theorem Entry.mirrors_reveal (e : Entry σ) : e.Mirrors Eq e.reveal := by
  refine ⟨rfl, rfl, rfl, rfl, ?_⟩
  simp only [reveal]
  cases e.jump with
  | stay => exact .stay
  | switchTo mode => exact .switchTo rfl
  | push mode => exact .push rfl
  | pop => exact .pop

namespace Firing

def reveal (f : Firing σ) : Firing σ := f.recast f.entry.reveal

theorem reveal_eq_self {f : Firing σ} (kept : f.entry.discard = false) : f.reveal = f := by
  rw [reveal, Entry.reveal_eq_self kept]
  rfl

end Firing

namespace Turn

def reveal : Turn σ → Turn σ
  | .ended => .ended
  | .stuck f => .stuck f.reveal
  | .unbalanced f => .unbalanced f.reveal
  | .consumed f => .consumed f.reveal

def isDiscarded : Turn σ → Bool
  | .consumed f => f.entry.discard
  | _ => false

/-- The item that a turn gives if no match is discarded. -/
def shown? (state : σ) : Turn σ → Option (Except ScanError Token)
  | .ended => none
  | .stuck f => some (.error (.emptyMatch f.entry.kind f.location.line f.location.col))
  | .unbalanced f => some (.error (.popOnEmptyStack f.entry.kind f.location.line f.location.col))
  | .consumed f => some (.ok (f.token (f.reveal.value state).1))

@[simp] theorem isDiscarded_reveal (turn : Turn σ) : turn.reveal.isDiscarded = false := by
  cases turn <;> rfl

@[simp] theorem shown?_reveal (state : σ) (turn : Turn σ) :
    turn.reveal.shown? state = turn.shown? state := by
  cases turn <;> rfl

theorem Mirrors.eq_reveal {turn turn' : Turn σ}
    (mirrors : turn.Mirrors (fun e e' => e' = e.reveal) turn') : turn' = turn.reveal := by
  cases mirrors with
  | ended => rfl
  | stuck same | unbalanced same | consumed same =>
      obtain ⟨rfl⟩ := same
      rfl

end Turn

/-! ## Compiling without discarding -/

namespace CompiledMode

theorem compile_reveal {resolve : String → Option Nat} {name : String} {rules : List (Rule σ)}
    {mode : CompiledMode σ} (ok : compile name rules resolve = .ok mode) :
    ∃ mode', compile name (rules.map Rule.reveal) resolve = .ok mode' ∧
      mode.Mirrors (fun e e' => e' = e.reveal) mode' := by
  have related : List.Forall₂ (fun rule rule' => rule' = rule.reveal) rules
      (rules.map Rule.reveal) := by
    rw [List.forall₂_map_right_iff, List.forall₂_same]
    exact fun _ _ => rfl
  have alike : ∀ rule rule' : Rule σ, rule' = rule.reveal → rule.Alike rule' := by
    rintro rule _ rfl
    exact rule.alike_reveal
  have found : ∀ rule' ∈ rules.map Rule.reveal, ∃ j, jump resolve rule' = .ok j := by
    intro rule' member
    obtain ⟨rule, inRules, rfl⟩ := List.mem_map.1 member
    obtain ⟨j, jumps⟩ := exists_jump ok inRules
    exact ⟨j, jumps⟩
  obtain ⟨mode', ok', pattern, twins⟩ := compile_alike name alike related found ok
  refine ⟨mode', ok', (name_of_compile ok').trans (name_of_compile ok).symm, pattern, ?_⟩
  refine twins.imp ?_
  rintro e e' ⟨slots, rule, _, rfl, follows, follows'⟩
  have jump := Except.ok.inj (follows.jump.symm.trans follows'.jump)
  obtain ⟨kind, -, error, lineBreaks, value, -⟩ := follows
  obtain ⟨kind', discard', error', lineBreaks', value', -⟩ := follows'
  obtain ⟨_, _, _, _, _, _, _⟩ := e
  obtain ⟨_, _, _, _, _, _, _⟩ := e'
  simp_all [Entry.reveal, Rule.reveal]

end CompiledMode

namespace Lexer

/-- Two lexers that the same rules or modes were compiled to, but in the second no rule discards its
matches. -/
inductive Revealed : Lexer σ → Lexer σ → Prop
  | rules {rules : List (Rule σ)} {l l' : Lexer σ} (ok : ofRules rules = .ok l)
      (ok' : ofRules (rules.map Rule.reveal) = .ok l') : Revealed l l'
  | modes {modes : List (Mode σ)} {l l' : Lexer σ} (ok : ofModes modes = .ok l)
      (ok' : ofModes (modes.map Mode.reveal) = .ok l') : Revealed l l'

theorem compileEach_reveal {resolve : String → Option Nat} {modes : List (Mode σ)}
    {compiled : List (CompiledMode σ)} (ok : compileEach resolve modes = .ok compiled) :
    ∃ compiled', compileEach resolve (modes.map Mode.reveal) = .ok compiled' ∧
      List.Forall₂ (CompiledMode.Mirrors fun e e' => e' = e.reveal) compiled compiled' := by
  induction modes generalizing compiled with
  | nil =>
      obtain rfl := Except.ok.inj ok
      exact ⟨[], rfl, .nil⟩
  | cons m rest ih =>
      obtain ⟨first, made, ok⟩ := bind_eq_ok ok
      obtain ⟨more, others, ok⟩ := bind_eq_ok ok
      obtain rfl := Except.ok.inj ok
      obtain ⟨first', made', head⟩ := CompiledMode.compile_reveal made
      obtain ⟨more', others', tail⟩ := ih others
      refine ⟨first' :: more', ?_, .cons head tail⟩
      simp only [List.map_cons, compileEach, Mode.reveal, made', bind, Except.bind, others']
      rfl

/-- Modes compile if they do with some of their matches discarded. -/
theorem Built.exists_revealed {l : Lexer σ} (built : l.Built) : ∃ l', l.Revealed l' := by
  cases built with
  | @rules rules l ok =>
      obtain ⟨mode, made, -⟩ := compile_of_ofRules ok
      obtain ⟨mode', made', -⟩ := CompiledMode.compile_reveal made
      have compiles : ∃ l', ofRules (rules.map Rule.reveal) = .ok l' := by
        rw [ofRules, made']
        exact ⟨_, rfl⟩
      obtain ⟨l', ok'⟩ := compiles
      exact ⟨l', .rules ok ok'⟩
  | @modes modes l ok =>
      obtain ⟨some_mode, each⟩ := compileEach_of_ofModes ok
      obtain ⟨compiled', each', -⟩ := compileEach_reveal each
      have fresh : repeatedName? [] (modes.map Mode.reveal) = none := by
        rw [repeatedName?_map Mode.name_reveal]
        exact repeatedName?_of_ofModes ok
      have some_mode' : ¬ (modes.map Mode.reveal).isEmpty = true := by
        simp [some_mode]
      have compiles : ∃ l', ofModes (modes.map Mode.reveal) = .ok l' := by
        rw [ofModes, if_neg some_mode', fresh, modeNumber?_map Mode.name_reveal, each']
        exact ⟨_, rfl⟩
      obtain ⟨l', ok'⟩ := compiles
      exact ⟨l', .modes ok ok'⟩

theorem mirrors_of_forall₂ {l l' : Lexer σ}
    (modes : List.Forall₂ (CompiledMode.Mirrors fun e e' => e' = e.reveal) l.modes l'.modes) :
    l.Mirrors Eq (fun e e' => e' = e.reveal) l' := by
  refine ⟨?_, ?_⟩
  · rintro e _ rfl
    exact e.mirrors_reveal
  · rintro i _ rfl
    rcases getElem?_of_forall₂ modes i with ⟨none, none'⟩ | ⟨c, c', some, some', same⟩
    · rw [none, none']
      exact .none
    · rw [some, some']
      exact .some same

theorem Revealed.mirrors {l l' : Lexer σ} (revealed : l.Revealed l') :
    l.Mirrors Eq (fun e e' => e' = e.reveal) l' := by
  apply mirrors_of_forall₂
  cases revealed with
  | rules ok ok' =>
      obtain ⟨mode, made, modes⟩ := compile_of_ofRules ok
      obtain ⟨mode', made', modes'⟩ := compile_of_ofRules ok'
      obtain ⟨other, again, same⟩ := CompiledMode.compile_reveal made
      obtain rfl := Except.ok.inj (made'.symm.trans again)
      rw [modes, modes']
      exact .cons same .nil
  | modes ok ok' =>
      obtain ⟨-, each⟩ := compileEach_of_ofModes ok
      obtain ⟨-, each'⟩ := compileEach_of_ofModes ok'
      obtain ⟨others, again, same⟩ := compileEach_reveal each
      rw [modeNumber?_map Mode.name_reveal, again] at each'
      rw [← Except.ok.inj each']
      exact same

theorem Revealed.isPure {l l' : Lexer σ} (revealed : l.Revealed l') (pure : l.IsPure) :
    l'.IsPure := by
  intro mode' inModes' e' inEntries' fn given
  obtain ⟨i, found'⟩ := List.getElem?_of_mem inModes'
  have modes := revealed.mirrors.modes i i rfl
  rw [found'] at modes
  cases found : l.modes[i]? with
  | none =>
      rw [found] at modes
      cases modes
  | some mode =>
      rw [found] at modes
      cases modes with
      | some same =>
          obtain ⟨e, inEntries, rfl⟩ := exists_of_forall₂_right same.entries inEntries'
          exact pure mode (List.mem_of_getElem? found) e inEntries fn given

end Lexer

/-! ## Turns and items -/

namespace Scanner

variable {l l' : Lexer σ} {s t u : Scanner} {state after : σ} {turns : List (Turn σ)}
  {f : Firing σ}

theorem Mirrors.eq_of_eq {s s' : Scanner} (mirrors : s.Mirrors Eq s') : s' = s := by
  obtain ⟨spot, location, done, stalled, active, stack⟩ := mirrors
  rw [List.forall₂_eq_eq_eq] at stack
  cases s
  cases s'
  simp_all

theorem turn_reveal {turn : Turn σ} (revealed : l.Revealed l') (step : s.turn l = (turn, t)) :
    s.turn l' = (turn.reveal, t) := by
  have here : s.Mirrors Eq s :=
    ⟨rfl, rfl, rfl, rfl, rfl, by rw [List.forall₂_eq_eq_eq]⟩
  obtain ⟨turn', t', step', same, there⟩ := turn_mirrors revealed.mirrors here step
  rw [step', same.eq_reveal, there.eq_of_eq]

/-- A lexer without discarding takes the same turns. -/
theorem Trail.reveal (trail : Trail l s turns t) (revealed : l.Revealed l') :
    Trail l' s (turns.map Turn.reveal) t := by
  induction trail with
  | nil s => exact .nil s
  | cons step later ih => exact .cons (turn_reveal revealed step) ih

/-- Drawing items to the end gives those of all turns but the discarded matches. -/
theorem Trail.drains (pure : l.IsPure) (trail : Trail l s turns u) (last : u.turn l = (.ended, t))
    (state : σ) :
    Drains l s state ((turns.filter fun turn => !turn.isDiscarded).filterMap (Turn.shown? state)) t
      state := by
  induction trail with
  | nil s =>
      have call : Next l s state _ _ t state := .ended last
      exact .ended call.next_eq
  | @cons s v u turn turns step later ih =>
      have drains := ih last
      cases turn with
      | ended =>
          obtain ⟨none, rfl, -⟩ := drains.of_done (done_of_ended step)
          have call : Next l s state _ _ t state := .ended step
          have nothing : (List.filter (fun turn => !turn.isDiscarded)
              (Turn.ended :: turns)).filterMap (Turn.shown? state) = [] := none
          rw [nothing]
          exact .ended call.next_eq
      | stuck f =>
          have call : Next l s state _ _ v state := .stuck step
          exact .error call.next_eq drains
      | unbalanced f =>
          obtain ⟨value, same⟩ := (unbalanced_cases step).1.value_of_isPure pure
          have call : Next l s state _ _ v (f.value state).2 := .unbalanced step
          rw [same] at call
          exact .error call.next_eq drains
      | consumed f =>
          by_cases dropped : f.entry.discard = true
          · have hidden : List.filter (fun turn => !turn.isDiscarded) (Turn.consumed f :: turns) =
                List.filter (fun turn => !turn.isDiscarded) turns := by
              simp [Turn.isDiscarded, dropped]
            rw [hidden]
            exact drains.behind_discarded step dropped
          · rw [Bool.not_eq_true] at dropped
            obtain ⟨value, same⟩ := (meets_of_consumed step).value_of_isPure pure
            have call : Next l s state _ _ v (f.value state).2 := .token step dropped
            have given : (Turn.consumed f).shown? state = some (.ok (f.token value)) := by
              rw [Turn.shown?, Firing.reveal_eq_self dropped, same]
            have kept : (List.filter (fun turn => !turn.isDiscarded)
                (Turn.consumed f :: turns)).filterMap (Turn.shown? state) = .ok (f.token value) ::
                  (List.filter (fun turn => !turn.isDiscarded) turns).filterMap
                    (Turn.shown? state) := by
              rw [List.filter_cons_of_pos (by simp [Turn.isDiscarded, dropped]),
                List.filterMap_cons_some given]
            rw [same] at call
            rw [kept]
            exact .token call.next_eq drains

/-- Clear the discard flags of all rules: what was compiled still compiles.

Whatever state a scanner is in, it then takes the same turns to the end and ends in the same state.
Each match gives its token, and what was given before is all that, less the tokens of the rules that
were to discard their matches. -/
theorem drains_revealed {l : Lexer σ} (built : l.Built) (pure : l.IsPure) :
    (∃ l', l.Revealed l') ∧
    ∀ l', l.Revealed l' → ∀ (s : Scanner) (state : σ), ∃ turns u t,
      Trail l s turns u ∧ u.turn l = (.ended, t) ∧ Trail l' s (turns.map Turn.reveal) u ∧
      Drains l' s state (turns.filterMap (Turn.shown? state)) t state ∧
      Drains l s state
        ((turns.filter fun turn => !turn.isDiscarded).filterMap (Turn.shown? state)) t state := by
  refine ⟨built.exists_revealed, ?_⟩
  intro l' revealed s state
  obtain ⟨turns, u, t, trail, -, last⟩ := exists_ends l s
  have trail' := trail.reveal revealed
  have drains' := trail'.drains (revealed.isPure pure) (turn_reveal revealed last) state
  -- Nothing that is revealed is discarded, so the second lexer shows every turn.
  have all : (turns.map Turn.reveal).filter (fun turn => !turn.isDiscarded) =
      turns.map Turn.reveal := by
    rw [List.filter_eq_self]
    simp
  have same : (turns.map Turn.reveal).filterMap (Turn.shown? state) =
      turns.filterMap (Turn.shown? state) := by
    rw [List.filterMap_map]
    congr 1
    funext turn
    exact turn.shown?_reveal state
  rw [all, same] at drains'
  exact ⟨turns, u, t, trail, last, trail', drains', trail.drains pure last state⟩

def sievedModes : List (Mode Unit) :=
  [⟨"main", [.regex "word" "a+", (Rule.literal "blank" " ").discard,
      ((Rule.literal "open" "<").push "inner").discard,
      (Rule.literal "unknown" "?").error.discard]⟩,
    ⟨"inner", [.regex "digit" "[0-9]", (Rule.literal "close" ">").pop.discard]⟩]

/-- Two of seven tokens are left. -/
theorem sievedModes_drains : ∃ l l', Lexer.ofModes sievedModes = .ok l ∧
    Lexer.ofModes (sievedModes.map Mode.reveal) = .ok l' ∧ l.IsPure ∧
    ∃ turns u t, Trail l (.start "a <1> ?a".toList) turns u ∧ u.turn l = (.ended, t) ∧
      Trail l' (.start "a <1> ?a".toList) (turns.map Turn.reveal) u ∧
      Drains l' (.start "a <1> ?a".toList) () (turns.filterMap (Turn.shown? ())) t () ∧
      Drains l (.start "a <1> ?a".toList) ()
        ((turns.filter fun turn => !turn.isDiscarded).filterMap (Turn.shown? ())) t () ∧
      (turns.filterMap (Turn.shown? ())).length = 7 ∧
      ((turns.filter fun turn => !turn.isDiscarded).filterMap (Turn.shown? ())).length = 2 := by
  obtain ⟨l, ok, two⟩ := exists_of_any (x := Lexer.ofModes sievedModes)
    (p := fun l => ((Scanner.start "a <1> ?a".toList).drain l 17 ()).1.length = 2) (by decide)
  obtain ⟨l', ok', seven⟩ := exists_of_any (x := Lexer.ofModes (sievedModes.map Mode.reveal))
    (p := fun l => ((Scanner.start "a <1> ?a".toList).drain l 17 ()).1.length = 7) (by decide)
  have bare : ∀ m ∈ sievedModes, ∀ rule ∈ m.rules, rule.options.value.isNone = true := by decide
  have pure : l.IsPure := by
    apply Lexer.isPure_of_ofModes ok
    intro m inModes rule inRules fn given
    have without := bare m inModes rule inRules
    rw [given] at without
    cases without
  obtain ⟨turns, u, t, trail, last, trail', drains', drains⟩ :=
    (drains_revealed (.modes ok) pure).2 l' (.modes ok ok') (.start "a <1> ?a".toList) ()
  have short : 2 * (Scanner.start "a <1> ?a".toList).left < 17 := by decide
  rw [drains.drain_eq (Nat.lt_of_le_of_lt drains.length_le short), decide_eq_true_eq] at two
  rw [drains'.drain_eq (Nat.lt_of_le_of_lt drains'.length_le short), decide_eq_true_eq] at seven
  exact ⟨l, l', ok, ok', pure, turns, u, t, trail, last, trail', drains', drains, seven, two⟩

end Scanner

end ModalLexer
