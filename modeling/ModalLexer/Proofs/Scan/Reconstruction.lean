import ModalLexer.Proofs.Mode.FirstMatch
import ModalLexer.Proofs.Scan.Tiling

/-! # The matches of a scan reconstruct its text

However many tokens are asked for, the matches that were consumed make up the text from the
checkpoint to the place reached, without gap or overlap, and the tokens are those of the matches
that are not discarded (`Scanner.nextTimes_reconstructs`).

The one assumption is that matches start where they are looked for.  It holds of a lexer whose
variants keep their groups and do not turn verbose mode on (`Lexer.startsAtCursor_of_ofModes`). -/
set_option autoImplicit false
namespace ModalLexer

variable {σ : Type}

/-- The characters of a text between two offsets, if these are places in order. -/
def slice? (text : List Char) (start stop : Nat) : Option (List Char) :=
  if stop < start then none
  else (Spot.at? text start).bind fun s => (Spot.at? text stop).map fun t => s.upTo t

theorem slice?_of_leads {s t : Spot} {a : List Char} (leads : Spot.Leads s a t) :
    slice? s.text s.offset t.offset = some a := by
  have offsets := leads.offset_eq
  have first : Spot.at? s.text s.offset = some s := Spot.at?_eq_some_iff.2 ⟨rfl, rfl⟩
  have second : Spot.at? s.text t.offset = some t :=
    Spot.at?_eq_some_iff.2 ⟨leads.text_eq, rfl⟩
  rw [slice?, if_neg (by omega), first, second, Option.bind_some, Option.map_some, leads.upTo_eq]

theorem Checkpoint.spot_eq_ok_iff {c : Checkpoint} {text : List Char} {s : Spot} :
    c.spot text = .ok s ↔ c.location.Positive ∧ s.text = text ∧ s.offset = c.offset := by
  rw [← Spot.at?_eq_some_iff, Location.positive_iff, spot, location]
  constructor
  · intro valid
    split at valid
    · cases valid
    · next positive =>
        split at valid
        · cases valid
        · split at valid
          · next found =>
              obtain rfl := Except.ok.inj valid
              exact ⟨positive, found⟩
          · cases valid
  · rintro ⟨positive, found⟩
    obtain ⟨whole, offset⟩ := Spot.at?_eq_some_iff.1 found
    have inside : c.offset ≤ byteLength text := by
      rw [← whole, ← offset, Spot.text, byteLength_append, byteLength_reverse, s.offset_eq]
      exact Nat.le_add_right _ _
    rw [if_neg positive, if_neg (Nat.not_lt.2 inside), found]

def tokensOf (items : List Scanner.Item) : List Token :=
  items.filterMap fun
    | .ok token => token
    | .error _ => none

/-- The matches that become tokens, each behind the matches consumed before it. -/
def emitted (earlier : List (Firing σ)) : List (Turn σ) → List (List (Firing σ) × Firing σ)
  | [] => []
  | .ended :: rest => emitted earlier rest
  | .stuck _ :: rest => emitted earlier rest
  | .unbalanced f :: rest => emitted (earlier ++ [f]) rest
  | .consumed f :: rest =>
      if f.entry.discard then emitted (earlier ++ [f]) rest
      else (earlier, f) :: emitted (earlier ++ [f]) rest

theorem emitted_append (earlier : List (Firing σ)) (turns more : List (Turn σ)) :
    emitted earlier (turns ++ more) =
      emitted earlier turns ++ emitted (earlier ++ matched turns) more := by
  induction turns generalizing earlier with
  | nil => rw [List.nil_append, matched, List.filterMap_nil, List.append_nil]; rfl
  | cons turn turns ih =>
      cases turn with
      | ended => exact ih earlier
      | stuck f => exact ih earlier
      | unbalanced f =>
          have later := ih (earlier ++ [f])
          rw [List.append_assoc] at later
          exact later
      | consumed f =>
          have later := ih (earlier ++ [f])
          rw [List.append_assoc] at later
          rw [List.cons_append, emitted, emitted]
          split
          · exact later
          · exact congrArg _ later

theorem exists_split_of_mem_emitted {earlier : List (Firing σ)} {turns : List (Turn σ)}
    {e : List (Firing σ) × Firing σ} (member : e ∈ emitted earlier turns) :
    ∃ before after, turns = before ++ .consumed e.2 :: after ∧ e.1 = earlier ++ matched before := by
  induction turns generalizing earlier with
  | nil => cases member
  | cons turn turns ih =>
      -- A match further on has this turn before it.
      have further {seen : List (Firing σ)} (same : seen = earlier ++ matched [turn])
          (member : e ∈ emitted seen turns) : ∃ before after,
            turn :: turns = before ++ .consumed e.2 :: after ∧
              e.1 = earlier ++ matched before := by
        obtain ⟨before, after, rfl, behind⟩ := ih member
        refine ⟨turn :: before, after, rfl, ?_⟩
        rw [behind, same, List.append_assoc, ← matched_append, List.singleton_append]
      cases turn with
      | ended => exact further (List.append_nil earlier).symm member
      | stuck f => exact further (List.append_nil earlier).symm member
      | unbalanced f => exact further rfl member
      | consumed f =>
          rw [emitted] at member
          split at member
          · exact further rfl member
          · rcases List.mem_cons.1 member with rfl | member
            · exact ⟨[], turns, rfl, (List.append_nil earlier).symm⟩
            · exact further rfl member

namespace Scanner

variable {l : Lexer σ} {s t : Scanner} {state after : σ} {turns : List (Turn σ)}

def MadeOf (e : List (Firing σ) × Firing σ) (token : Token) : Prop :=
  ∃ value, token = e.2.token value

theorem Next.emits {item : Item} (call : Next l s state turns item t after)
    (earlier : List (Firing σ)) :
    List.Forall₂ MadeOf (emitted earlier turns) (tokensOf [item]) := by
  induction call generalizing earlier with
  | ended step => exact .nil
  | stuck step => exact .nil
  | unbalanced step => exact .nil
  | @token s t state f step kept =>
      rw [emitted, if_neg (Bool.eq_false_iff.1 kept)]
      exact .cons ⟨_, rfl⟩ .nil
  | discarded step dropped later ih =>
      rw [emitted, if_pos dropped]
      exact ih _

theorem Calls.emits {items : List Item} (calls : Calls l s state turns items t after)
    (earlier : List (Firing σ)) :
    List.Forall₂ MadeOf (emitted earlier turns) (tokensOf items) := by
  induction calls generalizing earlier with
  | nil s state => exact .nil
  | @cons _ _ _ _ _ _ turns more item items call later ih =>
      have apart : tokensOf (item :: items) = tokensOf [item] ++ tokensOf items :=
        List.filterMap_append (l := [item])
      rw [emitted_append, apart]
      exact List.rel_append (call.emits earlier) (ih _)

theorem Calls.forall₂_emitted {items : List Item} (calls : Calls l s state turns items t after)
    {p : List (Firing σ) × Firing σ → Token → Prop}
    (each : ∀ before f behind value, turns = before ++ .consumed f :: behind →
      p (matched before, f) (f.token value)) :
    List.Forall₂ p (emitted [] turns) (tokensOf items) := by
  -- Where a match is follows from the turns, what a token is made of from the calls.
  have located : ∀ e ∈ emitted [] turns, ∀ value, p e (e.2.token value) := by
    intro e member value
    obtain ⟨before, behind, split, earlier⟩ := exists_split_of_mem_emitted member
    have holds := each before e.2 behind value split
    rw [List.nil_append] at earlier
    rwa [← earlier] at holds
  refine ((List.forall₂_and_left _ _).2 ⟨located, calls.emits []⟩).imp ?_
  rintro e token ⟨holds, value, rfl⟩
  exact holds value

/-- A token that is in the text where it says, behind some matches that begin at a checkpoint. -/
structure Yields (text : List Char) (origin : Checkpoint) (e : List (Firing σ) × Firing σ)
    (token : Token) : Prop where
  made : MadeOf e token
  offset : token.offset = origin.offset + byteLength (Firing.texts e.1)
  text_eq : slice? text token.offset token.stop = some token.text.toList
  line : Further origin.line (Firing.breaks e.1) token.line

/-- The matches that a scanner moved behind since it stood at a checkpoint of a text, and the items
it gave. -/
structure Reconstructs (text : List Char) (origin : Checkpoint) (turns : List (Turn σ))
    (items : List Item) (t : Scanner) : Prop where
  /-- Each match begins where the one before it ended, in the line reached there. -/
  tiles : ∀ before f after, matched turns = before ++ f :: after →
    f.offset = origin.offset + byteLength (Firing.texts before) ∧
      slice? text f.offset (f.offset + byteLength f.chars) = some f.chars ∧
      Further origin.line (Firing.breaks before) f.location.line
  /-- All of them make up the text from the checkpoint to the place reached. -/
  whole : slice? text origin.offset t.offset = some (Firing.texts (matched turns))
  line : Further origin.line (Firing.breaks (matched turns)) t.location.line
  /-- No match comes behind one that failed to resume a mode. -/
  failed : ∀ before f after, turns = before ++ .unbalanced f :: after → matched after = []
  /-- The tokens are made of the matches that are neither discarded nor failed. -/
  tokens : List.Forall₂ (Yields text origin) (emitted [] turns) (tokensOf items)

theorem reset_ok_cases {text : List Char} {checkpoint : Option Checkpoint}
    (resumed : s.reset text checkpoint = (.ok (), t)) :
    ∃ spot, (checkpoint.getD .start).spot text = .ok spot ∧
      t = { s with
        spot, location := (checkpoint.getD .start).location, done := false, stalled := none } := by
  simp only [reset] at resumed
  split at resumed
  · cases resumed
  · next spot valid => exact ⟨spot, valid, (Prod.mk.inj resumed).2.symm⟩

theorem reset_error_cases {text : List Char} {checkpoint : Option Checkpoint} {e : ScanError}
    (refused : s.reset text checkpoint = (.error e, t)) : t = s.halt := by
  simp only [reset] at refused
  split at refused
  · exact (Prod.mk.inj refused).2.symm
  · cases refused

theorem reset_cases {text : List Char} {checkpoint : Option Checkpoint}
    (resumed : s.reset text checkpoint = (.ok (), t)) :
    t.text = text ∧ t.offset = (checkpoint.getD .start).offset ∧
      t.location = (checkpoint.getD .start).location := by
  obtain ⟨spot, valid, rfl⟩ := reset_ok_cases resumed
  obtain ⟨-, whole, offset⟩ := Checkpoint.spot_eq_ok_iff.1 valid
  exact ⟨whole, offset, rfl⟩

theorem Trail.match_cases {before after : List (Turn σ)} {turn : Turn σ} {f : Firing σ}
    (trail : Trail l s (before ++ turn :: after) t) (anchored : l.StartsAtCursor s.text)
    (moved : turn.moved? = some f) :
    f.offset = s.offset + byteLength (Firing.texts (matched before)) ∧
      slice? s.text f.offset (f.offset + byteLength f.chars) = some f.chars ∧
      Further s.location.line (Firing.breaks (matched before)) f.location.line := by
  obtain ⟨u, v, passed, leads, offset, location, -⟩ := trail.tiled anchored moved
  refine ⟨?_, ?_, ?_⟩
  · rw [offset]
    exact passed.leads.offset_eq
  · have cut := slice?_of_leads leads
    rw [leads.offset_eq] at cut
    rw [offset, ← passed.text_eq]
    exact cut
  · rw [location]
    exact passed.line

theorem Trail.matched_of_unbalanced {before after : List (Turn σ)} {f : Firing σ}
    (trail : Trail l s (before ++ .unbalanced f :: after) t) : matched after = [] := by
  obtain ⟨u, -, later⟩ := trail.split
  cases later with
  | cons step rest =>
      apply rest.matched_of_done
      rw [(unbalanced_cases step).2]
      rfl

theorem Calls.reconstructs {items : List Item} {text : List Char} {origin : Checkpoint}
    (calls : Calls l s state turns items t after) (anchored : l.StartsAtCursor text)
    (whole : s.text = text) (offset : s.offset = origin.offset)
    (location : s.location = origin.location) : Reconstructs text origin turns items t := by
  subst whole
  have trail := calls.trail
  have passed := trail.passed anchored
  have line : s.location.line = origin.line := congrArg Location.line location
  refine ⟨?_, ?_, ?_, ?_, ?_⟩
  · intro before f after split
    obtain ⟨front, back, rfl, rfl, rest⟩ := List.filterMap_eq_append_iff.1 split
    obtain ⟨skipped, turn, behind, rfl, unmoved, moved, -⟩ := List.filterMap_eq_cons_iff.1 rest
    have nothing : matched skipped = [] := List.filterMap_eq_nil_iff.2 unmoved
    rw [← List.append_assoc] at trail
    have found := trail.match_cases anchored moved
    rw [matched_append, nothing, List.append_nil, offset, line] at found
    exact found
  · rw [← offset]
    exact slice?_of_leads passed.leads
  · rw [← line]
    exact passed.line
  · intro before f after split
    rw [split] at trail
    exact trail.matched_of_unbalanced
  · apply calls.forall₂_emitted
    intro before f behind value split
    rw [split] at trail
    have found := trail.match_cases anchored rfl
    rw [offset, line] at found
    refine ⟨⟨value, rfl⟩, found.1, ?_, found.2.2⟩
    simp only [Token.stop, Firing.token, String.toList_ofList]
    exact found.2.1

end Scanner

/-! ## Where matches start -/

/-- In a mode whose variants keep their groups, dispatch reports the match of a wrapper, and a
wrapper matches from where the mode does. -/
theorem Separate.start_of_finds {mode : CompiledMode σ} {rules : List (Rule σ)}
    {rows : List (Row σ)} (separate : Separate mode rules rows)
    (keeps : ∀ r ∈ rows, r.alternative.KeepsGroups) {s : Spot} {path : Path} {d : Dispatch σ}
    (finds : mode.Finds s path d) : d.extent.start = s := by
  cases first : rows.findSome? fun r => (r.branch.pattern .multiLineCrlf).first? s with
  | none =>
      have noMatch := separate.first?_eq_none (List.findSome?_eq_none_iff.1 first)
      rw [finds.first] at noMatch
      cases noMatch
  | some own =>
      obtain ⟨before, r, after, order, found, unmatched⟩ := List.findSome?_eq_some_iff.1 first
      have wrapped := separate.first?_eq order unmatched found
      rw [finds.first] at wrapped
      obtain rfl := Option.some.inj wrapped
      have dispatched := dispatch?_wrapMatch (s := s) separate.toCompiled order own
      have kept : ∀ b ∈ before, b.alternative.KeepsGroups := fun b member =>
        keeps b (order ▸ List.mem_append_left _ member)
      rw [if_pos kept, finds.dispatched] at dispatched
      rw [Option.some.inj dispatched]

namespace Lexer

/-- The matches of a lexer start where they are looked for, if no variant of its rules turns
verbose mode on or ends in groups that are repeated zero times. -/
theorem startsAtCursor_of_ofModes {modes : List (Mode σ)} {l : Lexer σ}
    (ok : ofModes modes = .ok l)
    (plain : ∀ m ∈ modes, ∀ a ∈ alternatives m.rules, a.turnsVerbose = false ∧ a.KeepsGroups)
    (text : List Char) : l.StartsAtCursor text := by
  intro mode member s path d _ finds
  have each := compileEach_eq (compileEach_of_ofModes ok).2
  obtain ⟨m, inModes, made⟩ := exists_of_forall₂_right each member
  obtain ⟨rows, compiled⟩ := compile_rows made
  have inRules {r : Row σ} (inRows : r ∈ rows) : r.alternative ∈ alternatives m.rules := by
    rw [← compiled.alternatives_eq]
    exact List.mem_map_of_mem inRows
  have separate : Separate mode m.rules rows := compiled.separate fun r inRows =>
    r.not_endsInComment (plain m inModes _ (inRules (List.mem_of_mem_dropLast inRows))).1
  exact separate.start_of_finds (fun r inRows => (plain m inModes _ (inRules inRows)).2) finds

end Lexer

/-! ## Reconstruction -/

namespace Scanner

/-- Whatever state a scanner was in when it turned to a checkpoint of a text, and however many
tokens are asked for, the matches it moved behind make up the text from there to the place reached,
and the tokens it gave are those of the matches that are neither discarded nor failed. -/
theorem nextTimes_reconstructs {l : Lexer σ} {s s₀ : Scanner} {text : List Char}
    {checkpoint : Option Checkpoint} (anchored : l.StartsAtCursor text)
    (resumed : s.reset text checkpoint = (.ok (), s₀)) (n : Nat) (state : σ) :
    ∃ turns,
      Calls l s₀ state turns (nextTimes l n s₀ state).1 (nextTimes l n s₀ state).2.1
        (nextTimes l n s₀ state).2.2 ∧
      Reconstructs text (checkpoint.getD .start) turns (nextTimes l n s₀ state).1
        (nextTimes l n s₀ state).2.1 := by
  obtain ⟨turns, calls⟩ := nextTimes_spec l n s₀ state
  obtain ⟨whole, offset, location⟩ := reset_cases resumed
  exact ⟨turns, calls, calls.reconstructs anchored whole offset location⟩

def bracketModes : List (Mode Unit) :=
  [⟨"main", [.regex "word" "a+", (Rule.regex "blank" "[ \\n]").countLineBreaks.discard,
      (Rule.literal "open" "<").push "inner", (Rule.literal "close" ">").pop]⟩,
    ⟨"inner", [.regex "digit" "[0-9]", (Rule.literal "close" ">").pop]⟩]

/-- Scanning from the second line; the last bracket finds no mode to resume. -/
theorem bracketModes_reconstructs : ∃ l, Lexer.ofModes bracketModes = .ok l ∧
    ∃ s₀, (Scanner.start []).reset "a\n<1> a>".toList (some ⟨2, 1, 2⟩) = (.ok (), s₀) ∧
      ∃ turns, Calls l s₀ () turns (nextTimes l 6 s₀ ()).1 (nextTimes l 6 s₀ ()).2.1
          (nextTimes l 6 s₀ ()).2.2 ∧
        Reconstructs "a\n<1> a>".toList ⟨2, 1, 2⟩ turns (nextTimes l 6 s₀ ()).1
          (nextTimes l 6 s₀ ()).2.1 := by
  obtain ⟨l, ok, -⟩ := exists_of_any (p := fun _ => true) (x := Lexer.ofModes bracketModes)
    (by decide)
  have anchored := Lexer.startsAtCursor_of_ofModes ok (by decide) "a\n<1> a>".toList
  have resumed : (Scanner.start []).reset "a\n<1> a>".toList (some ⟨2, 1, 2⟩) = (.ok (), _) := rfl
  exact ⟨l, ok, _, resumed, nextTimes_reconstructs anchored resumed 6 ()⟩

end Scanner

end ModalLexer
