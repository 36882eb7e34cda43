import ModalLexer.Proofs.Mode.Alike
import ModalLexer.Proofs.Scan.Calls

/-! # Lexers that take the same turns

Two lexers mirror each other if their modes correspond, by number or otherwise, and corresponding
modes find matches in the same places and move a scanner in the same way.  Scanners that stand in
the same place in corresponding modes then take corresponding turns (`Scanner.turn_mirrors`), and
give the same if corresponding rules do (`Scanner.Next.mirrors`).

`r` says which modes correspond, and `q` what is known of the entries that do; matches may be
discarded by one lexer only, or have other values there, unless `q` says that they do not. -/
set_option autoImplicit false
namespace ModalLexer

variable {σ : Type}

/-- Jumps to modes that correspond. -/
inductive Jump.Mirrors (r : Nat → Nat → Prop) : Jump → Jump → Prop
  | stay : Mirrors r .stay .stay
  | switchTo {i j : Nat} (same : r i j) : Mirrors r (.switchTo i) (.switchTo j)
  | push {i j : Nat} (same : r i j) : Mirrors r (.push i) (.push j)
  | pop : Mirrors r .pop .pop

/-- Entries that move a scanner in the same way. -/
structure Entry.Mirrors (r : Nat → Nat → Prop) (e e' : Entry σ) : Prop where
  kind : e'.kind = e.kind
  slots : e'.slots = e.slots
  error : e'.error = e.error
  lineBreaks : e'.lineBreaks = e.lineBreaks
  jump : e.jump.Mirrors r e'.jump

structure CompiledMode.Mirrors (q : Entry σ → Entry σ → Prop) (c c' : CompiledMode σ) :
    Prop where
  name : c'.name = c.name
  pattern : c'.pattern = c.pattern
  entries : List.Forall₂ q c.entries c'.entries

structure Lexer.Mirrors (r : Nat → Nat → Prop) (q : Entry σ → Entry σ → Prop)
    (l l' : Lexer σ) : Prop where
  entries : ∀ e e', q e e' → e.Mirrors r e'
  modes : ∀ i j, r i j → Option.Rel (CompiledMode.Mirrors q) l.modes[i]? l'.modes[j]?

/-- A scanner in the same place, in a mode that corresponds. -/
structure Scanner.Mirrors (r : Nat → Nat → Prop) (s s' : Scanner) : Prop where
  spot : s'.spot = s.spot
  location : s'.location = s.location
  done : s'.done = s.done
  stalled : s'.stalled = s.stalled
  active : r s.active s'.active
  stack : List.Forall₂ r s.stack s'.stack

def Dispatch.recast (d : Dispatch σ) (e : Entry σ) : Dispatch σ := { d with entry := e }

namespace Firing

def recast (f : Firing σ) (e : Entry σ) : Firing σ := { f with dispatch := f.dispatch.recast e }

@[simp] theorem entry_recast (f : Firing σ) (e : Entry σ) : (f.recast e).entry = e := rfl

@[simp] theorem chars_recast (f : Firing σ) (e : Entry σ) : (f.recast e).chars = f.chars := rfl

@[simp] theorem location_recast (f : Firing σ) (e : Entry σ) :
    (f.recast e).location = f.location := rfl

theorem advance_recast {f : Firing σ} {e : Entry σ} (policy : e.lineBreaks = f.entry.lineBreaks) :
    (f.recast e).advance = f.advance := by
  simp only [advance, chars_recast, location_recast, entry_recast, policy]

theorem value_recast {f : Firing σ} {e : Entry σ} (discard : e.discard = f.entry.discard)
    (given : e.value = f.entry.value) (state : σ) : (f.recast e).value state = f.value state := by
  simp only [value, entry_recast, chars_recast, discard, given]
  rfl

theorem token_recast {f : Firing σ} {e : Entry σ} (kind : e.kind = f.entry.kind)
    (error : e.error = f.entry.error) (policy : e.lineBreaks = f.entry.lineBreaks)
    (value : Value) : (f.recast e).token value = f.token value := by
  simp only [token, entry_recast, chars_recast, location_recast, kind, error,
    advance_recast policy]
  rfl

/-- A match by a rule of one lexer, and by the corresponding rule of the other. -/
inductive Mirrors (q : Entry σ → Entry σ → Prop) (f : Firing σ) : Firing σ → Prop
  | recast {e' : Entry σ} (related : q f.entry e') : Mirrors q f (f.recast e')

end Firing

inductive Turn.Mirrors (q : Entry σ → Entry σ → Prop) : Turn σ → Turn σ → Prop
  | ended : Mirrors q .ended .ended
  | stuck {f f' : Firing σ} (same : f.Mirrors q f') : Mirrors q (.stuck f) (.stuck f')
  | unbalanced {f f' : Firing σ} (same : f.Mirrors q f') :
      Mirrors q (.unbalanced f) (.unbalanced f')
  | consumed {f f' : Firing σ} (same : f.Mirrors q f') : Mirrors q (.consumed f) (.consumed f')

section Relations

variable {r : Nat → Nat → Prop} {q : Entry σ → Entry σ → Prop}

theorem Jump.Mirrors.stay_iff {j j' : Jump} (mirrors : j.Mirrors r j') :
    j' = .stay ↔ j = .stay := by
  cases mirrors <;> simp

theorem Entry.Mirrors.transitions_eq {e e' : Entry σ} (mirrors : e.Mirrors r e') :
    e'.transitions = e.transitions := by
  apply Bool.eq_iff_iff.2
  simp [transitions, mirrors.jump.stay_iff]

/-- Jumps of rules that name the same mode correspond if the modes found by that name do. -/
theorem CompiledMode.jump_mirrors {resolve resolve' : String → Option Nat} {rule rule' : Rule σ}
    {j j' : Jump} (named : ∀ name i i', resolve name = some i → resolve' name = some i' → r i i')
    (same : rule'.options.transition = rule.options.transition)
    (found : jump resolve rule = .ok j) (found' : jump resolve' rule' = .ok j') :
    j.Mirrors r j' := by
  have way := resolved_of_jump found
  have way' := resolved_of_jump found'
  rw [same] at way'
  generalize rule.options.transition = transition at way way'
  cases way with
  | stay =>
      cases way'
      exact .stay
  | pop =>
      cases way'
      exact .pop
  | switchTo known =>
      cases way' with
      | switchTo known' => exact .switchTo (named _ _ _ known known')
  | push known =>
      cases way' with
      | push known' => exact .push (named _ _ _ known known')

theorem CompiledMode.dispatch?_mirrors {entries entries' : List (Entry σ)}
    (related : List.Forall₂ q entries entries') (slots : ∀ e e', q e e' → e'.slots = e.slots)
    (p : Path) :
    Option.Rel (fun d d' => ∃ e', q d.entry e' ∧ d' = d.recast e') (dispatch? p entries)
      (dispatch? p entries') := by
  induction related with
  | nil => exact .none
  | @cons e e' rest rest' head tail ih =>
      rw [dispatch?, dispatch?, slots e e' head]
      cases dispatchSlot? p 0 e.slots with
      | none => exact ih
      | some found => exact .some ⟨e', head, rfl⟩

end Relations

namespace Scanner

variable {r : Nat → Nat → Prop} {q : Entry σ → Entry σ → Prop} {l l' : Lexer σ}
  {s s' t : Scanner} {f f' : Firing σ}

namespace Mirrors

variable (mirrors : s.Mirrors r s')

include mirrors

theorem halt : s.halt.Mirrors r s'.halt :=
  ⟨mirrors.spot, mirrors.location, rfl, mirrors.stalled, mirrors.active, mirrors.stack⟩

theorem offset_eq : s'.offset = s.offset := congrArg Spot.offset mirrors.spot

theorem moveBehind (same : f.Mirrors q f') (policy : f'.entry.lineBreaks = f.entry.lineBreaks) :
    (s.moveBehind f).Mirrors r (s'.moveBehind f') := by
  cases same with
  | recast related =>
      refine ⟨rfl, ?_, mirrors.done, ?_, mirrors.active, mirrors.stack⟩
      · exact congrArg Prod.fst (Firing.advance_recast policy)
      · simp only [Scanner.moveBehind, Firing.chars_recast, mirrors.offset_eq]

theorem isStuck_eq (same : f.Mirrors q f') (changes : f'.entry.transitions = f.entry.transitions) :
    s'.isStuck f' = s.isStuck f := by
  cases same with
  | recast related =>
      rw [Firing.entry_recast] at changes
      simp only [isStuck, Firing.chars_recast, Firing.entry_recast, changes, mirrors.stalled,
        mirrors.offset_eq]

theorem jump? {j j' : Jump} (jumps : j.Mirrors r j') :
    Option.Rel (Scanner.Mirrors r) (s.jump? j) (s'.jump? j') := by
  obtain ⟨spot, location, done, stalled, active, stack⟩ := mirrors
  cases jumps with
  | stay => exact .some ⟨spot, location, done, stalled, active, stack⟩
  | switchTo same => exact .some ⟨spot, location, done, stalled, same, stack⟩
  | push same => exact .some ⟨spot, location, done, stalled, same, .cons active stack⟩
  | pop =>
      simp only [Scanner.jump?]
      generalize s.stack = held at stack ⊢
      generalize s'.stack = held' at stack ⊢
      cases stack with
      | nil => exact .none
      | cons top below => exact .some ⟨spot, location, done, stalled, top, below⟩

theorem firing? (same : l.Mirrors r q l') :
    Option.Rel (Firing.Mirrors q) (s.firing? l) (s'.firing? l') := by
  have slots : ∀ e e', q e e' → e'.slots = e.slots := fun e e' related =>
    (same.entries e e' related).slots
  have modes := same.modes s.active s'.active mirrors.active
  simp only [Scanner.firing?]
  generalize l.modes[s.active]? = mode at modes ⊢
  generalize l'.modes[s'.active]? = mode' at modes ⊢
  cases modes with
  | none => exact .none
  | some modes =>
      simp only [modes.pattern, mirrors.spot, mirrors.location, mirrors.offset_eq]
      split
      · exact .none
      · next path found =>
          have dispatched := CompiledMode.dispatch?_mirrors modes.entries slots path
          generalize CompiledMode.dispatch? path _ = d at dispatched ⊢
          generalize CompiledMode.dispatch? path _ = d' at dispatched ⊢
          cases dispatched with
          | none => exact .none
          | some dispatched =>
              obtain ⟨e', related, rfl⟩ := dispatched
              exact .some (.recast related)

end Mirrors

/-- Where one scanner meets a match, the other meets the same by the corresponding rule. -/
theorem Meets.mirrors (meets : s.Meets l f) (same : l.Mirrors r q l') (mirrors : s.Mirrors r s') :
    ∃ f', s'.Meets l' f' ∧ f.Mirrors q f' ∧ f.entry.Mirrors r f'.entry := by
  have found := mirrors.firing? same
  rw [meets.found] at found
  cases found' : s'.firing? l' with
  | none =>
      rw [found'] at found
      cases found
  | some f' =>
      rw [found'] at found
      cases found with
      | some firings =>
          have running : s'.done = false := mirrors.done.trans meets.running
          have more : s'.spot.atEnd = false := (congrArg Spot.atEnd mirrors.spot).trans meets.more
          refine ⟨f', ⟨running, more, found'⟩, firings, ?_⟩
          cases firings with
          | recast related => exact same.entries _ _ related

/-- Scanners that mirror each other take turns that do. -/
theorem turn_mirrors {turn : Turn σ} (same : l.Mirrors r q l') (mirrors : s.Mirrors r s')
    (step : s.turn l = (turn, t)) :
    ∃ turn' t', s'.turn l' = (turn', t') ∧ turn.Mirrors q turn' ∧ t.Mirrors r t' := by
  cases turn_cases step with
  | ended finished =>
      have finished' : s'.done = true ∨ s'.spot.atEnd = true ∨ s'.firing? l' = none := by
        rcases finished with done | atEnd | nothing
        · exact .inl (mirrors.done.trans done)
        · exact .inr (.inl ((congrArg Spot.atEnd mirrors.spot).trans atEnd))
        · have found := mirrors.firing? same
          rw [nothing] at found
          cases found' : s'.firing? l' with
          | none => exact .inr (.inr rfl)
          | some f' =>
              rw [found'] at found
              cases found
      exact ⟨_, _, (TurnCases.ended finished').turn_eq, .ended, mirrors.halt⟩
  | stuck meets stuck =>
      obtain ⟨f', meets', firings, entries⟩ := meets.mirrors same mirrors
      rw [← mirrors.isStuck_eq firings entries.transitions_eq] at stuck
      exact ⟨_, _, (TurnCases.stuck meets' stuck).turn_eq, .stuck firings, mirrors.halt⟩
  | @unbalanced f meets free jumped =>
      obtain ⟨f', meets', firings, entries⟩ := meets.mirrors same mirrors
      rw [← mirrors.isStuck_eq firings entries.transitions_eq] at free
      have behind := mirrors.moveBehind firings entries.lineBreaks
      have jumps := behind.jump? entries.jump
      rw [jumped] at jumps
      cases jumped' : (s'.moveBehind f').jump? f'.entry.jump with
      | none =>
          exact ⟨_, _, (TurnCases.unbalanced meets' free jumped').turn_eq, .unbalanced firings,
            behind.halt⟩
      | some t' =>
          rw [jumped'] at jumps
          cases jumps
  | @consumed f u meets free jumped =>
      obtain ⟨f', meets', firings, entries⟩ := meets.mirrors same mirrors
      rw [← mirrors.isStuck_eq firings entries.transitions_eq] at free
      have jumps := (mirrors.moveBehind firings entries.lineBreaks).jump? entries.jump
      rw [jumped] at jumps
      cases jumped' : (s'.moveBehind f').jump? f'.entry.jump with
      | none =>
          rw [jumped'] at jumps
          cases jumps
      | some u' =>
          rw [jumped'] at jumps
          cases jumps with
          | some there =>
              have turn := (TurnCases.consumed meets' free jumped').turn_eq
              refine ⟨_, _, turn, .consumed firings, ?_⟩
              exact ⟨there.spot, there.location, entries.error, there.stalled, there.active,
                there.stack⟩

/-- Calls for the next token of scanners in corresponding modes give the same. -/
theorem Next.mirrors {turns : List (Turn σ)} {item : Item} {state after : σ}
    (call : Next l s state turns item t after) (same : l.Mirrors r q l')
    (values : ∀ e e', q e e' → e'.discard = e.discard ∧ e'.value = e.value)
    (mirrors : s.Mirrors r s') :
    ∃ turns' t', Next l' s' state turns' item t' after ∧ t.Mirrors r t' := by
  -- A call goes on behind discarded matches only, and there the scanners mirror each other again.
  induction call generalizing s' with
  | ended step =>
      obtain ⟨turn', t', step', twin, there⟩ := turn_mirrors same mirrors step
      cases twin with
      | ended => exact ⟨_, t', .ended step', there⟩
  | @stuck s t state f step =>
      obtain ⟨turn', t', step', twin, there⟩ := turn_mirrors same mirrors step
      cases twin with
      | stuck firings =>
          obtain ⟨related⟩ := firings
          have call : Next l' s' state _ _ t' _ := .stuck step'
          rw [Firing.entry_recast, Firing.location_recast, (same.entries _ _ related).kind] at call
          exact ⟨_, t', call, there⟩
  | @unbalanced s t state f step =>
      obtain ⟨turn', t', step', twin, there⟩ := turn_mirrors same mirrors step
      cases twin with
      | unbalanced firings =>
          obtain ⟨related⟩ := firings
          obtain ⟨discard, value⟩ := values _ _ related
          have call : Next l' s' state _ _ t' _ := .unbalanced step'
          rw [Firing.entry_recast, Firing.location_recast, (same.entries _ _ related).kind,
            Firing.value_recast discard value] at call
          exact ⟨_, t', call, there⟩
  | @token s t state f step kept =>
      obtain ⟨turn', t', step', twin, there⟩ := turn_mirrors same mirrors step
      cases twin with
      | consumed firings =>
          obtain ⟨related⟩ := firings
          obtain ⟨discard, value⟩ := values _ _ related
          obtain ⟨kind, -, error, lineBreaks, -⟩ := same.entries _ _ related
          have call : Next l' s' state _ _ t' _ := .token step' (discard.trans kept)
          rw [Firing.value_recast discard value, Firing.token_recast kind error lineBreaks] at call
          exact ⟨_, t', call, there⟩
  | @discarded s t u state after f turns item step dropped later ih =>
      obtain ⟨turn', t', step', twin, there⟩ := turn_mirrors same mirrors step
      cases twin with
      | consumed firings =>
          obtain ⟨related⟩ := firings
          obtain ⟨discard, value⟩ := values _ _ related
          obtain ⟨turns', u', later', last⟩ := ih there
          rw [← Firing.value_recast discard value] at later'
          exact ⟨_, u', .discarded step' (discard.trans dropped) later', last⟩

theorem Mirrors.reset (mirrors : s.Mirrors r s') (text : List Char)
    (checkpoint : Option Checkpoint) :
    (s'.reset text checkpoint).1 = (s.reset text checkpoint).1 ∧
      (s.reset text checkpoint).2.Mirrors r (s'.reset text checkpoint).2 := by
  obtain ⟨spot, location, done, stalled, active, stack⟩ := mirrors
  rw [Scanner.reset, Scanner.reset]
  split
  · exact ⟨rfl, spot, location, rfl, stalled, active, stack⟩
  · exact ⟨rfl, rfl, rfl, rfl, rfl, active, stack⟩

end Scanner

end ModalLexer
