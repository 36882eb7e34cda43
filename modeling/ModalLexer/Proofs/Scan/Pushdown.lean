import ModalLexer.Proofs.Mode.Numbers
import ModalLexer.Proofs.Scan.Termination
import ModalLexer.Proofs.Scan.Tiling

/-! # Modes by name

A scanner knows modes by number.  Its modes by name are those of a machine that has seen nothing of
the lexer but the rules as they were written, and takes the transition of each rule that matches
(`Scanner.answers_named`).  A mode that was suspended is the active one again when the scanner first
comes back to the same depth (`Scanner.Bracket.resumes`). -/
set_option autoImplicit false
namespace ModalLexer

variable {σ : Type}

/-- The names of the active mode and of the suspended ones, the innermost first. -/
structure NamedModes where
  active : String
  suspended : List String
deriving DecidableEq

namespace Jump

def suspends : Jump → Bool
  | .stay => false
  | .switchTo _ => false
  | .push _ => true
  | .pop => false

def resumes : Jump → Bool
  | .stay => false
  | .switchTo _ => false
  | .push _ => false
  | .pop => true

end Jump

inductive Event (σ : Type)
  | turn (turn : Turn σ)
  | reset (text : List Char) (checkpoint : Option Checkpoint)

namespace Event

def jump? : Event σ → Option Jump
  | .reset _ _ => none
  | .turn .ended => none
  | .turn (.stuck _) => none
  | .turn (.unbalanced _) => none
  | .turn (.consumed f) => some f.entry.jump

def pushes (e : Event σ) : Bool := e.jump?.any Jump.suspends

/-- Whether a match resumes a suspended mode.  If there is none, then it is not consumed. -/
def pops (e : Event σ) : Bool := e.jump?.any Jump.resumes

end Event

/-- The transition that a rule of a mode was given. -/
def transition? (modes : List (Mode σ)) (mode rule : String) : Option Transition := do
  let m ← modes.find? (·.name = mode)
  let r ← m.rules.find? (·.name = rule)
  return r.options.transition

namespace NamedModes

def first (modes : List (Mode σ)) : NamedModes := ⟨((modes.map Mode.name).head?).getD "", []⟩

/-- What a transition makes of the modes.  A mode that is to be resumed but was not suspended
changes nothing. -/
def follow (ν : NamedModes) : Transition → NamedModes
  | .none => ν
  | .switchTo name => { ν with active := name }
  | .push name => ⟨name, ν.active :: ν.suspended⟩
  | .pop =>
      match ν.suspended with
      | [] => ν
      | name :: rest => ⟨name, rest⟩

def after? (modes : List (Mode σ)) (ν : NamedModes) : Event σ → Option NamedModes
  | .reset _ _ => some ν
  | .turn turn =>
      match turn.moved? with
      | none => some ν
      | some f => (transition? modes ν.active f.entry.kind).map ν.follow

def run? (modes : List (Mode σ)) (ν : NamedModes) (events : List (Event σ)) : Option NamedModes :=
  events.foldlM (after? modes) ν

end NamedModes

namespace Lexer

variable {modes : List (Mode σ)} {l : Lexer σ}

/-- An entry of a compiled mode has the transition that its rule was given in the mode of that
name. -/
theorem transition?_of_entry (ok : ofModes modes = .ok l) {i : Nat} {c : CompiledMode σ}
    (found : l.modes[i]? = some c) {e : Entry σ} (member : e ∈ c.entries) :
    ∃ way, transition? modes (l.modeName i) e.kind = some way ∧
      CompiledMode.Resolved (modeNumber? modes) way e.jump := by
  obtain ⟨m, there, made⟩ := exists_mode ok found
  obtain ⟨entries, distinct⟩ := CompiledMode.compile_entries made
  obtain ⟨rule, inRules, follows⟩ := exists_of_forall₂_right entries member
  have mode := find?_of_nodup_map (distinct_of_ofModes ok) (List.mem_of_getElem? there)
  have own := find?_of_nodup_map distinct inRules
  refine ⟨rule.options.transition, ?_, CompiledMode.resolved_of_jump follows.jump⟩
  rw [transition?, modeName_of_getElem? ok there, mode, follows.kind]
  simp [own]

end Lexer

namespace Scanner

variable {l : Lexer σ} {s t u : Scanner} {f : Firing σ} {turn : Turn σ} {turns : List (Turn σ)}
  {event : Event σ} {events more : List (Event σ)} {modes : List (Mode σ)} {state after : σ}

def named (l : Lexer σ) (s : Scanner) : NamedModes := ⟨l.modeName s.active, s.stack.map l.modeName⟩

@[simp] theorem named_halt (s : Scanner) : s.halt.named l = s.named l := rfl

@[simp] theorem named_moveBehind (s : Scanner) (f : Firing σ) :
    (s.moveBehind f).named l = s.named l := rfl

theorem modes_of_reset (s : Scanner) (text : List Char) (checkpoint : Option Checkpoint) :
    (s.reset text checkpoint).2.active = s.active ∧
      (s.reset text checkpoint).2.stack = s.stack := by
  rw [reset]
  split <;> exact ⟨rfl, rfl⟩

/-! ## One event -/

inductive Happens (l : Lexer σ) (s : Scanner) : Event σ → Scanner → Prop
  | turn {turn : Turn σ} {t : Scanner} (step : s.turn l = (turn, t)) : Happens l s (.turn turn) t
  | reset (text : List Char) (checkpoint : Option Checkpoint) :
      Happens l s (.reset text checkpoint) (s.reset text checkpoint).2

theorem named_of_jump? (ok : Lexer.ofModes modes = .ok l) {way : Transition} {jump : Jump}
    (resolved : CompiledMode.Resolved (Lexer.modeNumber? modes) way jump)
    (jumped : s.jump? jump = some t) : t.named l = (s.named l).follow way := by
  cases resolved with
  | stay =>
      obtain rfl := Option.some.inj jumped
      rfl
  | switchTo found =>
      obtain rfl := Option.some.inj jumped
      simp [named, NamedModes.follow, Lexer.modeName_of_modeNumber? ok found]
  | push found =>
      obtain rfl := Option.some.inj jumped
      simp [named, NamedModes.follow, Lexer.modeName_of_modeNumber? ok found]
  | pop =>
      simp only [jump?] at jumped
      split at jumped
      · cases jumped
      · next held =>
          obtain rfl := Option.some.inj jumped
          simp [named, NamedModes.follow, held]

theorem named_of_jump?_eq_none {way : Transition} {jump : Jump} {resolve : String → Option Nat}
    (resolved : CompiledMode.Resolved resolve way jump) (failed : s.jump? jump = none) :
    (s.named l).follow way = s.named l := by
  cases resolved with
  | stay => cases failed
  | switchTo found => cases failed
  | push found => cases failed
  | pop =>
      simp only [jump?] at failed
      split at failed
      · next held => simp [named, NamedModes.follow, held]
      · cases failed

theorem Meets.declared (ok : Lexer.ofModes modes = .ok l) (meets : s.Meets l f) :
    ∃ way, transition? modes (s.named l).active f.entry.kind = some way ∧
      CompiledMode.Resolved (Lexer.modeNumber? modes) way f.entry.jump := by
  obtain ⟨c, found, finds, -, -⟩ := firing?_cases meets.found
  exact Lexer.transition?_of_entry ok found (CompiledMode.entry_mem_of_dispatch? finds.dispatched)

theorem named_of_turn (ok : Lexer.ofModes modes = .ok l) (step : s.turn l = (turn, t)) :
    (s.named l).after? modes (.turn turn) = some (t.named l) := by
  cases turn_cases step with
  | ended finished => rfl
  | stuck meets stuck => rfl
  | unbalanced meets free jumped =>
      obtain ⟨way, given, resolved⟩ := meets.declared ok
      have same := named_of_jump?_eq_none (l := l) resolved jumped
      rw [named_moveBehind] at same
      simp only [NamedModes.after?, Turn.moved?, given, Option.map_some, same, named_halt,
        named_moveBehind]
  | @consumed f u meets free jumped =>
      obtain ⟨way, given, resolved⟩ := meets.declared ok
      have behind := named_of_jump? ok resolved jumped
      rw [named_moveBehind] at behind
      simp only [NamedModes.after?, Turn.moved?, given, Option.map_some, ← behind]
      rfl

theorem Happens.named (ok : Lexer.ofModes modes = .ok l) (happens : s.Happens l event t) :
    (s.named l).after? modes event = some (t.named l) := by
  cases happens with
  | turn step => exact named_of_turn ok step
  | reset text checkpoint =>
      obtain ⟨active, stack⟩ := s.modes_of_reset text checkpoint
      rw [NamedModes.after?, Scanner.named, Scanner.named, active, stack]

/-- What an event does to the suspended modes.  Only a match of a rule that says so puts the active
mode on them or takes one away. -/
inductive Held (s : Scanner) (pushes pops : Bool) (t : Scanner) : Prop
  | same (neither : pushes = false ∧ pops = false) (stack : t.stack = s.stack)
  | more (push : pushes = true ∧ pops = false) (stack : t.stack = s.active :: s.stack)
  | fewer (pop : pushes = false ∧ pops = true) (stack : s.stack = t.active :: t.stack)

theorem Happens.held (happens : s.Happens l event t) : s.Held event.pushes event.pops t := by
  cases happens with
  | reset text checkpoint => exact .same ⟨rfl, rfl⟩ (s.modes_of_reset text checkpoint).2
  | turn step =>
      cases turn_cases step with
      | ended finished => exact .same ⟨rfl, rfl⟩ rfl
      | stuck meets stuck => exact .same ⟨rfl, rfl⟩ rfl
      | unbalanced meets free jumped => exact .same ⟨rfl, rfl⟩ rfl
      | @consumed f u meets free jumped =>
          simp only [Event.pushes, Event.pops, Event.jump?, Option.any_some]
          generalize f.entry.jump = jump at jumped ⊢
          cases jump with
          | stay =>
              obtain rfl := Option.some.inj jumped
              exact .same ⟨rfl, rfl⟩ rfl
          | switchTo mode =>
              obtain rfl := Option.some.inj jumped
              exact .same ⟨rfl, rfl⟩ rfl
          | push mode =>
              obtain rfl := Option.some.inj jumped
              exact .more ⟨rfl, rfl⟩ rfl
          | pop =>
              simp only [jump?] at jumped
              split at jumped
              · cases jumped
              · next held =>
                  obtain rfl := Option.some.inj jumped
                  exact .fewer ⟨rfl, rfl⟩ held

/-! ## Events one after the other -/

inductive History (l : Lexer σ) : Scanner → List (Event σ) → Scanner → Prop
  | nil (s : Scanner) : History l s [] s
  | cons {s t u : Scanner} {event : Event σ} {events : List (Event σ)}
      (happens : s.Happens l event t) (later : History l t events u) :
      History l s (event :: events) u

namespace History

theorem append (first : History l s events t) (second : History l t more u) :
    History l s (events ++ more) u := by
  induction first with
  | nil s => exact second
  | cons happens later ih => exact .cons happens (ih second)

theorem split (history : History l s (events ++ more) u) :
    ∃ t, History l s events t ∧ History l t more u := by
  induction events generalizing s with
  | nil => exact ⟨s, .nil s, history⟩
  | cons event events ih =>
      cases history with
      | cons happens later =>
          obtain ⟨t, first, second⟩ := ih later
          exact ⟨t, .cons happens first, second⟩

theorem of_trail (trail : Trail l s turns t) : History l s (turns.map Event.turn) t := by
  induction trail with
  | nil s => exact .nil s
  | cons step later ih => exact .cons (.turn step) ih

theorem named (ok : Lexer.ofModes modes = .ok l) (history : History l s events t) :
    (s.named l).run? modes events = some (t.named l) := by
  induction history with
  | nil s => rfl
  | cons happens later ih =>
      rw [NamedModes.run?, List.foldlM_cons, happens.named ok]
      exact ih

/-- As many modes are suspended as pushes have found no pop. -/
theorem depth_eq (history : History l s events t) :
    t.depth + events.countP Event.pops = s.depth + events.countP Event.pushes := by
  induction history with
  | nil s => rfl
  | @cons s t u event events happens later ih =>
      rw [List.countP_cons, List.countP_cons]
      simp only [depth] at ih ⊢
      cases happens.held with
      | same neither stack =>
          rw [stack] at ih
          simp [neither]
          omega
      | more push stack =>
          rw [stack, List.length_cons] at ih
          simp [push]
          omega
      | fewer pop stack =>
          rw [stack, List.length_cons]
          simp [pop]
          omega

/-- While the scanner stays deeper than the modes below, these stay as they are.  An event that
leads out of there resumes the uppermost of them. -/
theorem above {mode : Nat} {below : List Nat} (top : List Nat) (history : History l s events t)
    (inside : s.stack = top ++ mode :: below)
    (deeper : ∀ front back u, events = front ++ back → front ≠ [] → back ≠ [] →
      History l s front u → below.length < u.depth) :
    (∃ top, t.stack = top ++ mode :: below) ∨ (t.active = mode ∧ t.stack = below) := by
  induction history generalizing top with
  | nil s => exact .inl ⟨top, inside⟩
  | @cons s v t event events happens later ih =>
      -- What one event leaves of the stack.
      have next : (∃ top, v.stack = top ++ mode :: below) ∨
          (v.active = mode ∧ v.stack = below) := by
        cases happens.held with
        | same neither stack => exact .inl ⟨top, stack.trans inside⟩
        | more push stack => exact .inl ⟨s.active :: top, by rw [stack, inside]; rfl⟩
        | fewer pop stack =>
            rw [inside] at stack
            cases top with
            | nil =>
                obtain ⟨active, rest⟩ := List.cons.inj stack
                exact .inr ⟨active.symm, rest.symm⟩
            | cons number top => exact .inl ⟨top, (List.cons.inj stack).2.symm⟩
      rcases next with ⟨top', still⟩ | out
      · apply ih top' still
        intro front back u whole some_front some_back history
        apply deeper (event :: front) back u (by rw [whole]; rfl) (List.cons_ne_nil _ _) some_back
        exact .cons happens history
      · cases later with
        | nil => exact .inr out
        | @cons _ w _ event' events' happens' later' =>
            have level := deeper [event] (event' :: events') v rfl (List.cons_ne_nil _ _)
              (List.cons_ne_nil _ _) (.cons happens (.nil v))
            rw [depth, out.2] at level
            exact absurd level (Nat.lt_irrefl _)

end History

/-- A push, and what happens behind it until the scanner is for the first time as deep as it was. -/
structure Bracket (l : Lexer σ) (s : Scanner) (push : Event σ) (events : List (Event σ))
    (t : Scanner) : Prop where
  pushes : push.pushes = true
  history : History l s (push :: events) t
  deeper : ∀ front back u, events = front ++ back → back ≠ [] → History l s (push :: front) u →
    s.depth < u.depth
  level : t.depth = s.depth

/-- The mode that was suspended is active again, and the same ones are suspended. -/
theorem Bracket.resumes (bracket : Bracket l s event events t) :
    t.active = s.active ∧ t.stack = s.stack := by
  obtain ⟨pushes, history, deeper, level⟩ := bracket
  cases history with
  | cons happens later =>
      cases happens.held with
      | same neither stack => simp [pushes] at neither
      | fewer pop stack => simp [pushes] at pop
      | more push stack =>
          have inner := later.above [] stack ?_
          · rcases inner with ⟨top, still⟩ | out
            · rw [depth, depth, still, List.length_append, List.length_cons] at level
              omega
            · exact out
          · intro front back u whole some_front some_back history
            exact deeper front back u whole some_back (.cons happens history)

/-! ## Requests -/

inductive Session (l : Lexer σ) :
    Scanner → σ → List Request → List (Event σ) → Scanner → σ → Prop
  | nil (s : Scanner) (state : σ) : Session l s state [] [] s state
  | next {s t u : Scanner} {state after last : σ} {turns : List (Turn σ)} {item : Item}
      {requests : List Request} {events : List (Event σ)}
      (call : Next l s state turns item t after)
      (later : Session l t after requests events u last) :
      Session l s state (.next :: requests) (turns.map .turn ++ events) u last
  | reset {s u : Scanner} {state last : σ} {text : List Char} {checkpoint : Option Checkpoint}
      {requests : List Request} {events : List (Event σ)}
      (later : Session l (s.reset text checkpoint).2 state requests events u last) :
      Session l s state (.reset text checkpoint :: requests)
        (.reset text checkpoint :: events) u last

theorem session_spec (l : Lexer σ) (s : Scanner) (state : σ) (requests : List Request) :
    ∃ events, Session l s state requests events (answers l s state requests).2.1
      (answers l s state requests).2.2 := by
  induction requests generalizing s state with
  | nil => exact ⟨[], .nil s state⟩
  | cons request rest ih =>
      rw [answers_cons]
      cases request with
      | next =>
          obtain ⟨turns, call⟩ := next_spec l s state
          obtain ⟨events, later⟩ := ih (s.next l state).2.1 (s.next l state).2.2
          exact ⟨_, .next call later⟩
      | reset text checkpoint =>
          obtain ⟨events, later⟩ := ih (s.reset text checkpoint).2 state
          exact ⟨_, .reset later⟩

theorem Session.history {requests : List Request}
    (session : Session l s state requests events t after) : History l s events t := by
  induction session with
  | nil s state => exact .nil s
  | next call later ih => exact (History.of_trail call.trail).append ih
  | reset later ih => exact .cons (.reset _ _) ih

theorem named_start (ok : Lexer.ofModes modes = .ok l) (text : List Char) :
    (Scanner.start text).named l = NamedModes.first modes := by
  obtain ⟨some_mode, -⟩ := Lexer.compileEach_of_ofModes ok
  obtain ⟨m, rest, rfl⟩ := List.exists_cons_of_ne_nil some_mode
  have active : l.modeName 0 = m.name := Lexer.modeName_of_getElem? ok rfl
  simp [named, start, NamedModes.first, active]

/-- Take the modes that a lexer was compiled from, a scanner at the start of a text, and requests
for tokens, with resets to other texts between them.

At every point of what happens then, the scanner's modes are by name those of the machine that takes
the transitions as they were written, and its depth is the number of pushes, less the pops that
found a mode.  A match that it moves behind there is one of a rule of the active mode, and it
pushes, pops or switches if that rule says so.

When a scanner, whatever state it is in, is for the first time as deep again as before a push, then
its modes are those of before. -/
theorem answers_named {modes : List (Mode σ)} {l : Lexer σ} (ok : Lexer.ofModes modes = .ok l)
    (text : List Char) (state : σ) (requests : List Request) :
    let last := (answers l (.start text) state requests).2
    (∃ events, Session l (.start text) state requests events last.1 last.2 ∧
      ∀ before later, events = before ++ later → ∃ s, History l (.start text) before s ∧
        History l s later last.1 ∧
        (NamedModes.first modes).run? modes before = some (s.named l) ∧
        s.depth + before.countP Event.pops = before.countP Event.pushes ∧
        ∀ turn f rest, later = .turn turn :: rest → turn.moved? = some f →
          ∃ way, transition? modes (s.named l).active f.entry.kind = some way ∧
            CompiledMode.Resolved (Lexer.modeNumber? modes) way f.entry.jump) ∧
    ∀ s push events t, Bracket l s push events t → t.named l = s.named l := by
  intro last
  refine ⟨?_, ?_⟩
  · obtain ⟨events, session⟩ := session_spec l (.start text) state requests
    refine ⟨events, session, ?_⟩
    rintro before later rfl
    -- A session cut anywhere is a history up to there and a history from there on.
    obtain ⟨s, first, second⟩ := session.history.split
    refine ⟨s, first, second, ?_, ?_, ?_⟩
    · rw [← named_start ok text]
      exact first.named ok
    · have level := first.depth_eq
      rw [level, depth, start, List.length_nil, Nat.zero_add]
    · rintro turn f rest rfl moved
      cases second with
      | cons happens more =>
          cases happens with
          | turn step => exact (cases_of_moved step moved).1.declared ok
  · intro s push events t bracket
    obtain ⟨active, stack⟩ := bracket.resumes
    rw [named, named, active, stack]

def bracketedModes : List (Mode Unit) :=
  [⟨"main", [.regex "word" "a+", (Rule.literal "open" "(").push "round"]⟩,
    ⟨"round", [.regex "word" "a+", (Rule.literal "open" "[").push "square",
      (Rule.literal "close" ")").pop]⟩,
    ⟨"square", [((Rule.literal "bar" "|").switchTo "barred").discard]⟩,
    ⟨"barred", [(Rule.literal "close" "]").pop]⟩]

/-- The inner bracket is closed in another text than it was opened in. -/
theorem bracketedModes_named : ∃ l, Lexer.ofModes bracketedModes = .ok l ∧ ∃ events s,
    History l (.start "a([|".toList) events s ∧
    (NamedModes.first bracketedModes).run? bracketedModes events = some ⟨"round", ["main"]⟩ ∧
    1 + events.countP Event.pops = events.countP Event.pushes := by
  let requests : List Request := [.next, .next, .next, .next, .reset "]a".toList none, .next, .next]
  obtain ⟨l, ok, modes⟩ := exists_of_any (x := Lexer.ofModes bracketedModes)
    (p := fun l => (answers l (.start "a([|".toList) () requests).2.1.named l = ⟨"round", ["main"]⟩)
    (by decide)
  obtain ⟨⟨events, session, point⟩, -⟩ := answers_named ok "a([|".toList () requests
  obtain ⟨s, history, later, run, level, -⟩ := point events [] (List.append_nil events).symm
  cases later
  rw [decide_eq_true_eq] at modes
  have deep : (answers l (.start "a([|".toList) () requests).2.1.depth = 1 := by
    have names := congrArg (fun ν => ν.suspended.length) modes
    simpa [named, depth] using names
  rw [modes] at run
  rw [deep] at level
  exact ⟨l, ok, events, _, history, run, level⟩

end Scanner

end ModalLexer
