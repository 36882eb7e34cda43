import ModalLexer.Proofs.Scan.Reconstruction

/-! # States that a scanner can get to

`Scanner.Reaches` lists what can be done with a scanner: it is made at the start of a text, turned
to another text or place, which may fail, and asked for tokens.  In every state it stands at a place
of the text it is bound to, and its modes exist (`Scanner.Reaches.sound`).  So nothing is looked up
that is not there, and every checkpoint that is handed out is good (`Scanner.reaches_safe`). -/
set_option autoImplicit false
namespace ModalLexer

variable {σ : Type}

def Jump.target? : Jump → Option Nat
  | .stay => none
  | .switchTo mode => some mode
  | .push mode => some mode
  | .pop => none

theorem CompiledMode.Resolved.exists_name {resolve : String → Option Nat} {way : Transition}
    {jump : Jump} (resolved : Resolved resolve way jump) {target : Nat}
    (leads : jump.target? = some target) : ∃ name, resolve name = some target := by
  cases resolved with
  | stay => cases leads
  | pop => cases leads
  | switchTo found => exact ⟨_, found.trans leads⟩
  | push found => exact ⟨_, found.trans leads⟩

namespace Lexer

inductive Built : Lexer σ → Prop
  | rules {rules : List (Rule σ)} {l : Lexer σ} (ok : ofRules rules = .ok l) : Built l
  | modes {modes : List (Mode σ)} {l : Lexer σ} (ok : ofModes modes = .ok l) : Built l

theorem CompiledFrom.built {modes : List (Mode σ)} {l : Lexer σ} (compiled : CompiledFrom modes l) :
    l.Built := by
  cases compiled with
  | modes ok => exact .modes ok
  | rules ok => exact .rules ok

/-- There is a first mode, and matches only lead to modes that there are. -/
structure Closed (l : Lexer σ) : Prop where
  first : 0 < l.modes.length
  jumps : ∀ mode ∈ l.modes, ∀ e ∈ mode.entries, ∀ target, e.jump.target? = some target →
    target < l.modes.length

theorem entry_resolved {resolve : String → Option Nat} {name : String} {rules : List (Rule σ)}
    {mode : CompiledMode σ} (made : CompiledMode.compile name rules resolve = .ok mode)
    {e : Entry σ} (member : e ∈ mode.entries) {target : Nat}
    (leads : e.jump.target? = some target) : ∃ name, resolve name = some target := by
  obtain ⟨entries, -⟩ := CompiledMode.compile_entries made
  obtain ⟨rule, -, follows⟩ := exists_of_forall₂_right entries member
  exact (CompiledMode.resolved_of_jump follows.jump).exists_name leads

/-- Names are resolved when a lexer is compiled, so no mode is missing later. -/
theorem Built.closed {l : Lexer σ} (built : l.Built) : l.Closed := by
  cases built with
  | rules ok =>
      obtain ⟨own, made, same⟩ := compile_of_ofRules ok
      refine ⟨by rw [same]; exact Nat.one_pos, ?_⟩
      intro mode inModes e inEntries target leads
      rw [same, List.mem_singleton] at inModes
      subst inModes
      obtain ⟨name, found⟩ := entry_resolved made inEntries leads
      cases found
  | modes ok =>
      obtain ⟨nonempty, each⟩ := compileEach_of_ofModes ok
      have compiled := compileEach_eq each
      refine ⟨?_, ?_⟩
      · rw [← compiled.length_eq]
        exact List.length_pos_iff.2 nonempty
      · intro mode inModes e inEntries target leads
        obtain ⟨m, -, made⟩ := exists_of_forall₂_right compiled inModes
        obtain ⟨name, found⟩ := entry_resolved made inEntries leads
        rw [← compiled.length_eq]
        exact modeNumber?_lt found

end Lexer

namespace Scanner

variable {l : Lexer σ} {s t : Scanner} {turn : Turn σ} {turns : List (Turn σ)} {f : Firing σ}
  {text : List Char} {state after : σ} {item : Item}

/-- The states that a scanner can get to, with the text it is bound to and the turns it has taken
since it was bound to it.  A reset that fails binds it to nothing new. -/
inductive Reaches (l : Lexer σ) : List Char → List (Turn σ) → Scanner → Prop
  | scan (text : List Char) : Reaches l text [] (.start text)
  | bound {text text' : List Char} {turns : List (Turn σ)} {s t : Scanner}
      {checkpoint : Option Checkpoint} (earlier : Reaches l text turns s)
      (ok : s.reset text' checkpoint = (.ok (), t)) : Reaches l text' [] t
  | refused {text text' : List Char} {turns : List (Turn σ)} {s t : Scanner}
      {checkpoint : Option Checkpoint} {e : ScanError} (earlier : Reaches l text turns s)
      (bad : s.reset text' checkpoint = (.error e, t)) : Reaches l text turns t
  | called {text : List Char} {turns more : List (Turn σ)} {s t : Scanner} {state after : σ}
      {item : Item} (earlier : Reaches l text turns s) (call : Next l s state more item t after) :
      Reaches l text (turns ++ more) t

/-- What holds of a scanner in every state: it stands at a place of its text, and its modes are
modes of the lexer. -/
structure Sound (l : Lexer σ) (text : List Char) (s : Scanner) : Prop where
  text_eq : s.text = text
  active : s.active < l.modes.length
  stack : ∀ mode ∈ s.stack, mode < l.modes.length

theorem jump?_modes {bound : Nat} {jump : Jump} (jumped : s.jump? jump = some t)
    (leads : ∀ target, jump.target? = some target → target < bound) (active : s.active < bound)
    (stack : ∀ mode ∈ s.stack, mode < bound) :
    t.active < bound ∧ ∀ mode ∈ t.stack, mode < bound := by
  cases jump with
  | stay =>
      obtain rfl := Option.some.inj jumped
      exact ⟨active, stack⟩
  | switchTo mode =>
      obtain rfl := Option.some.inj jumped
      exact ⟨leads mode rfl, stack⟩
  | push mode =>
      obtain rfl := Option.some.inj jumped
      exact ⟨leads mode rfl, List.forall_mem_cons.2 ⟨active, stack⟩⟩
  | pop =>
      simp only [jump?] at jumped
      split at jumped
      · cases jumped
      · next mode rest stacked =>
          obtain rfl := Option.some.inj jumped
          rw [stacked, List.forall_mem_cons] at stack
          exact stack

namespace Sound

theorem start (closed : l.Closed) (text : List Char) : Sound l text (.start text) :=
  ⟨rfl, closed.first, nofun⟩

theorem halt (sound : s.Sound l text) : s.halt.Sound l text :=
  ⟨sound.text_eq, sound.active, sound.stack⟩

theorem reset {text' : List Char} {checkpoint : Option Checkpoint} (sound : s.Sound l text)
    (ok : s.reset text' checkpoint = (.ok (), t)) : t.Sound l text' := by
  obtain ⟨spot, valid, rfl⟩ := reset_ok_cases ok
  obtain ⟨-, whole, -⟩ := Checkpoint.spot_eq_ok_iff.1 valid
  exact ⟨whole, sound.active, sound.stack⟩

end Sound

theorem Sound.moveBehind (sound : s.Sound l text) (meets : s.Meets l f) :
    (s.moveBehind f).Sound l text := by
  obtain ⟨before, inside, -⟩ := meets.between
  refine ⟨?_, sound.active, sound.stack⟩
  rw [← sound.text_eq]
  exact (before.trans inside).leads.text_eq

theorem Sound.of_turn (sound : s.Sound l text) (closed : l.Closed)
    (step : s.turn l = (turn, t)) : t.Sound l text := by
  cases turn_cases step with
  | ended finished => exact sound.halt
  | stuck meets stuck => exact sound.halt
  | unbalanced meets free jumped => exact (sound.moveBehind meets).halt
  | @consumed f u meets free jumped =>
      have behind := sound.moveBehind meets
      obtain ⟨mode, inModes, inEntries⟩ := meets.entry_mem
      obtain ⟨spot, -⟩ := jump?_frame jumped
      obtain ⟨active, stack⟩ := jump?_modes jumped (closed.jumps mode inModes f.entry inEntries)
        behind.active behind.stack
      exact ⟨(congrArg Spot.text spot).trans behind.text_eq, active, stack⟩

theorem Trail.sound (trail : Trail l s turns t) (closed : l.Closed) (sound : s.Sound l text) :
    t.Sound l text := by
  induction trail with
  | nil s => exact sound
  | cons step later ih => exact ih (sound.of_turn closed step)

theorem Reaches.sound (reached : Reaches l text turns s) (closed : l.Closed) :
    s.Sound l text := by
  induction reached with
  | scan text => exact .start closed text
  | bound earlier ok ih => exact ih.reset ok
  | refused earlier bad ih =>
      rw [reset_error_cases bad]
      exact ih.halt
  | called earlier call ih => exact call.trail.sound closed ih

/-- Lines and columns stay positive unless a sum is too large. -/
theorem Trail.positive (trail : Trail l s turns t) (positive : s.location.Positive)
    (fits : ∀ f ∈ matched turns, f.Fits) : t.location.Positive := by
  induction trail with
  | nil s => exact positive
  | @cons s t u turn turns step later ih =>
      rw [matched_cons, List.forall_mem_append] at fits
      refine ih ?_ fits.2
      cases moved : turn.moved? with
      | none =>
          rw [(unmoved_cases step moved).2]
          exact positive
      | some f =>
          obtain ⟨meets, -, location⟩ := cases_of_moved step moved
          obtain ⟨mode, -, -, -, here⟩ := firing?_cases meets.found
          have one : matched [turn] = [f] := List.filterMap_cons_some moved
          rw [one] at fits
          rw [← here] at positive
          rw [location]
          exact positive.advance (fits.1 f List.mem_cons_self)

theorem Reaches.positive (reached : Reaches l text turns s)
    (fits : ∀ f ∈ matched turns, f.Fits) : s.location.Positive := by
  induction reached with
  | scan text => exact ⟨UInt64.le_refl 1, UInt64.le_refl 1⟩
  | bound earlier ok ih =>
      obtain ⟨spot, valid, rfl⟩ := reset_ok_cases ok
      exact (Checkpoint.spot_eq_ok_iff.1 valid).1
  | refused earlier bad ih =>
      rw [reset_error_cases bad]
      exact ih fits
  | called earlier call ih =>
      rw [matched_append, List.forall_mem_append] at fits
      exact call.trail.positive (ih fits.1) fits.2

theorem Sound.spot_save (sound : s.Sound l text) (positive : s.location.Positive) :
    s.save.spot text = .ok s.spot :=
  Checkpoint.spot_eq_ok_iff.2 ⟨positive, sound.text_eq, rfl⟩

/-- What a scanner looks up for its next match is there: the active mode, and the text of every
group. -/
structure LooksUp (l : Lexer σ) (text : List Char) (s : Scanner) : Prop where
  mode : ∃ mode, l.modes[s.active]? = some mode
  slices : ∀ f, s.firing? l = some f → ∀ index e, f.path.group? index = some e →
    slice? text e.start.offset e.stop.offset = some e.text

theorem Sound.looksUp (sound : s.Sound l text) : s.LooksUp l text := by
  refine ⟨⟨_, List.getElem?_eq_getElem sound.active⟩, ?_⟩
  intro f found index e group
  obtain ⟨mode, -, finds, -⟩ := firing?_cases found
  obtain ⟨before, inside, -⟩ := Pattern.between_of_first? finds.first group
  have cut := slice?_of_leads inside.leads
  rw [before.leads.text_eq] at cut
  rw [← sound.text_eq]
  exact cut

theorem checkpoint_eq_save (meets : s.Meets l f) (value : Value) :
    (f.token value).checkpoint = s.save := by
  obtain ⟨mode, -, -, offset, location⟩ := firing?_cases meets.found
  rw [save, ← offset, ← location]
  rfl

/-- A scanner that has taken some turns on its text does not leave it or the modes of its lexer, nor
does the next call.  Lines and columns are positive, and so checkpoints are good for the text, unless
one of them has got too large. -/
structure Safe (l : Lexer σ) (text : List Char) (turns : List (Turn σ)) (s : Scanner) (state : σ) :
    Prop where
  inside : s.offset ≤ byteLength text
  boundary : Spot.at? text s.offset = some s.spot
  active : s.active < l.modes.length
  stack : ∀ mode ∈ s.stack, mode < l.modes.length
  positive : (∀ f ∈ matched turns, f.Fits) → 1 ≤ s.location.line ∧ 1 ≤ s.location.col
  /-- A checkpoint taken here is good for the text. -/
  save : (∀ f ∈ matched turns, f.Fits) → s.save.spot text = .ok s.spot
  /-- In each turn of a call the mode is there and every group is a stretch of the text, and the
  checkpoint of the token is good for the text. -/
  call : ∃ more, Next l s state more (s.next l state).1 (s.next l state).2.1 (s.next l state).2.2 ∧
    (∀ before after, more = before ++ after → ∃ u, Trail l s before u ∧ u.LooksUp l text) ∧
    ((∀ f ∈ matched (turns ++ more), f.Fits) → ∀ token, (s.next l state).1 = .ok (some token) →
      ∃ spot, token.checkpoint.spot text = .ok spot)

/-- Whatever was done with a scanner of a compiled lexer, it is safe. -/
theorem reaches_safe {l : Lexer σ} (built : l.Built) {text : List Char} {turns : List (Turn σ)}
    {s : Scanner} (reached : Reaches l text turns s) (state : σ) : s.Safe l text turns state := by
  have closed := built.closed
  have sound := reached.sound closed
  refine ⟨?_, ?_, sound.active, sound.stack, reached.positive, ?_, ?_⟩
  · rw [← sound.text_eq, Scanner.text, Spot.text, byteLength_append, byteLength_reverse, offset,
      s.spot.offset_eq]
    exact Nat.le_add_right _ _
  · exact Spot.at?_eq_some_iff.2 ⟨sound.text_eq, rfl⟩
  · intro fits
    exact sound.spot_save (reached.positive fits)
  · obtain ⟨more, call⟩ := next_spec l s state
    refine ⟨more, call, ?_, ?_⟩
    -- Each turn of the next call begins in a sound state, and so do the discarded matches.
    · rintro before after rfl
      obtain ⟨u, passed, -⟩ := call.trail.split
      exact ⟨u, passed, (passed.sound closed sound).looksUp⟩
    · intro fits token given
      obtain ⟨dropped, last, u, between, rfl, passed, final⟩ := call.exists_last
      rw [given] at final
      obtain ⟨f, -, step, -, rfl⟩ := final.consumed_of_token
      rw [← List.append_assoc, matched_append, List.forall_mem_append, matched_append,
        List.forall_mem_append] at fits
      have positive := passed.positive (reached.positive fits.1.1) fits.1.2
      rw [checkpoint_eq_save (meets_of_consumed step)]
      exact ⟨u.spot, (passed.sound closed sound).spot_save positive⟩

/-- A token is drawn from one text, a reset to another fails, and the next token is still drawn from
the first. -/
theorem bracketModes_safe : ∃ l, Lexer.ofModes bracketModes = .ok l ∧ ∃ turns t,
    Reaches l "a<1".toList turns t ∧ t.Safe l "a<1".toList turns () := by
  obtain ⟨l, ok, -⟩ := exists_of_any (p := fun _ => true) (x := Lexer.ofModes bracketModes)
    (by decide)
  obtain ⟨turns, call⟩ := next_spec l (.start "a<1".toList) ()
  have drawn : Reaches l "a<1".toList _ _ := .called (.scan _) call
  have bad : ((Scanner.start "a<1".toList).next l ()).2.1.reset "é".toList (some ⟨1, 2, 1⟩) =
    (.error (.invalidCheckpoint 1 1 2 .insideCharacter), _) := rfl
  have kept : Reaches l "a<1".toList _ _ := .refused drawn bad
  obtain ⟨more, call⟩ := next_spec l _ ()
  have again : Reaches l "a<1".toList _ _ := .called kept call
  exact ⟨l, ok, _, _, again, reaches_safe (.modes ok) again ()⟩

end Scanner

end ModalLexer
