import ModalLexer.Proofs.Scan.Reconstruction

/-! # Locations follow the text

Where the line breaks in all matches are counted, the column of a token and of the scanner is that
behind the whole text before it.  The line may be ahead, by one for each match that begins inside a
break of two characters (`Scanner.nextTimes_locations`).

Matches must start where they are looked for, as in the reconstruction of the text.  Where they do
not, what lies between goes uncounted (`Scanner.lostColumnRules_locations`). -/
set_option autoImplicit false
namespace ModalLexer

variable {σ : Type}

namespace Location

/-- The location behind a text, all line breaks of which count. -/
def behind (text : List Char) : Location := (start.advance text .scan).1

/-- A location behind a text that was gone through in pieces, between which some line breaks were
torn. -/
structure Follows (l : Location) (text : List Char) (torn : Nat) : Prop where
  col : l.col = (behind text).col
  not_before : (behind text).line ≤ l.line
  not_far : l.line.toNat ≤ (behind text).line.toNat + torn
  inside : l.line.toNat ≤ 1 + text.length

theorem Follows.start : start.Follows [] 0 :=
  ⟨rfl, UInt64.le_refl 1, Nat.le_refl 1, Nat.le_refl 1⟩

theorem Follows.eq_behind {l : Location} {text : List Char} (follows : l.Follows text 0) :
    l = behind text := by
  obtain ⟨line, col⟩ := l
  have sameLine : line = _ :=
    UInt64.le_antisymm (UInt64.le_iff_toNat_le.2 follows.not_far) follows.not_before
  have sameCol : col = _ := follows.col
  rw [sameLine, sameCol]

theorem line_behind {text : List Char} (fits : 1 + text.length < UInt64.size) :
    (behind text).line.toNat = 1 + Lines.breakCount text := by
  have few := Lines.breakCount_le_length text
  rw [behind, line_scan]
  exact toNat_add_ofNat (Nat.lt_of_le_of_lt (Nat.add_le_add_left few 1) fits)

/-- The lines of a text that is short enough to be counted are counted without wrapping. -/
theorem Follows.advance {l : Location} {text piece : List Char} {torn : Nat}
    (follows : l.Follows text torn) (fits : 1 + (text ++ piece).length < UInt64.size) :
    (l.advance piece .scan).1.Follows (text ++ piece)
      (torn + if Lines.tears text piece then 1 else 0) := by
  have whole := line_behind fits
  rw [List.length_append, ← Nat.add_assoc] at fits
  have first := line_behind (Nat.lt_of_le_of_lt (Nat.le_add_right _ piece.length) fits)
  have breaks := Lines.breakCount_append text piece
  have few := Lines.breakCount_le_length piece
  have lines := UInt64.le_iff_toNat_le.1 follows.not_before
  have far := follows.not_far
  have inside := follows.inside
  have line : (l.advance piece .scan).1.line.toNat = l.line.toNat + Lines.breakCount piece := by
    rw [line_scan]
    exact toNat_add_ofNat (by omega)
  refine ⟨?_, ?_, ?_, ?_⟩
  · rw [behind, col_scan_append]
    exact col_scan_congr follows.col piece
  · rw [UInt64.le_iff_toNat_le, line, whole]
    omega
  · rw [line, whole]
    omega
  · rw [line, List.length_append]
    omega

end Location

def Spot.insidePair (s : Spot) : Bool :=
  s.before?.any fun c => s.after?.any fun d => Lines.isPair c d

def splitsPair (text : List Char) (offset : Nat) : Bool :=
  (Spot.at? text offset).any Spot.insidePair

namespace Firing

def CountsBreaks (f : Firing σ) : Prop :=
  f.entry.lineBreaks = .scan ∨
    f.entry.lineBreaks = .none ∧ ∀ c ∈ f.chars, Lines.isBreak c = false

theorem CountsBreaks.advance_eq {f : Firing σ} (counts : f.CountsBreaks) :
    f.advance.1 = (f.location.advance f.chars .scan).1 := by
  rcases counts with policy | ⟨policy, plain⟩
  · rw [advance, policy]
  · rw [advance, policy,
      Location.advance_scan_of_zero (Lines.breakCount_eq_zero_iff.2 plain)]

/-- How many of some matches begin inside a line break.  An empty match begins where the next one
does and is left out. -/
def cuts (text : List Char) (fs : List (Firing σ)) : Nat :=
  fs.countP fun f => !f.chars.isEmpty && splitsPair text f.offset

end Firing

def LocatedBehind (text : List Char) (fs : List (Firing σ)) (offset : Nat) (l : Location) : Prop :=
  ∃ front, slice? text 0 offset = some front ∧ l.Follows front (Firing.cuts text fs) ∧
    ((∀ f ∈ fs, splitsPair text f.offset = false) → l = .behind front)

namespace Scanner

variable {l : Lexer σ} {s t : Scanner} {turn : Turn σ} {turns : List (Turn σ)} {f : Firing σ}
  {text : List Char} {fs : List (Firing σ)}

/-- A scanner whose location follows the text it has gone through. -/
structure OnTrack (text : List Char) (torn : Nat) (s : Scanner) : Prop where
  text_eq : s.text = text
  follows : s.location.Follows s.spot.past.reverse torn

theorem OnTrack.located (onTrack : s.OnTrack text (Firing.cuts text fs)) :
    LocatedBehind text fs s.offset s.location := by
  have cut : slice? s.text 0 s.offset = some s.spot.past.reverse :=
    slice?_of_leads (s := .start s.text) ⟨rfl, by simp [Spot.start]⟩
  rw [onTrack.text_eq] at cut
  refine ⟨_, cut, onTrack.follows, fun whole => ?_⟩
  have none : Firing.cuts text fs = 0 := by
    refine List.countP_eq_zero.2 fun f member => ?_
    rw [whole f member]
    simp
  exact (none ▸ onTrack.follows).eq_behind

theorem splitsPair_offset (s : Scanner) : splitsPair s.text s.offset = s.spot.insidePair := by
  have here : Spot.at? s.text s.offset = some s.spot := Spot.at?_eq_some_iff.2 ⟨rfl, rfl⟩
  rw [splitsPair, here]
  rfl

theorem tears_of_leads {s t : Spot} {chars : List Char} (leads : Spot.Leads s chars t) :
    Lines.tears s.past.reverse chars = (!chars.isEmpty && s.insidePair) := by
  cases chars with
  | nil => simp [Lines.tears]
  | cons c chars =>
      have next : s.after? = some c := by rw [Spot.after?, leads.1]; rfl
      simp [Lines.tears, Spot.insidePair, Spot.before?, next]

/-- A match that counts its line breaks keeps the scanner on track. -/
theorem OnTrack.of_turn {torn : Nat} (onTrack : s.OnTrack text torn)
    (fits : 1 + text.length < UInt64.size) (anchored : l.StartsAtCursor text)
    (step : s.turn l = (turn, t))
    (counts : ∀ f ∈ matched [turn], f.CountsBreaks) :
    t.OnTrack text (torn + Firing.cuts text (matched [turn])) := by
  obtain ⟨rfl, follows⟩ := onTrack
  cases moved : turn.moved? with
  | none =>
      obtain ⟨spot, location⟩ := unmoved_cases step moved
      rw [matched, List.filterMap_cons_none moved, List.filterMap_nil]
      exact ⟨by rw [Scanner.text, spot, Scanner.text], by rw [spot, location]; exact follows⟩
  | some f =>
      have leads := leads_of_moved anchored step moved
      obtain ⟨meets, -, location⟩ := cases_of_moved step moved
      obtain ⟨-, offset, here⟩ := meets.begins anchored
      rw [matched, List.filterMap_cons_some moved, List.filterMap_nil] at counts ⊢
      rw [Scanner.text, Spot.text, leads.1, ← List.append_assoc, List.length_append] at fits
      have short : 1 + (s.spot.past.reverse ++ f.chars).length < UInt64.size := by omega
      have counted := follows.advance short
      rw [← here, ← (counts f List.mem_cons_self).advance_eq, ← location,
        tears_of_leads leads] at counted
      refine ⟨leads.text_eq, ?_⟩
      rw [leads.2, List.reverse_append, List.reverse_reverse, Firing.cuts, List.countP_singleton,
        offset, splitsPair_offset]
      exact counted

theorem Trail.onTrack {torn : Nat} (trail : Trail l s turns t)
    (fits : 1 + text.length < UInt64.size) (anchored : l.StartsAtCursor text)
    (onTrack : s.OnTrack text torn) (counts : ∀ f ∈ matched turns, f.CountsBreaks) :
    t.OnTrack text (torn + Firing.cuts text (matched turns)) := by
  induction trail generalizing torn with
  | nil s => exact onTrack
  | @cons s t u turn turns step later ih =>
      rw [matched_cons, List.forall_mem_append] at counts
      rw [matched_cons, Firing.cuts, List.countP_append, ← Nat.add_assoc]
      exact ih (onTrack.of_turn fits anchored step counts.1) counts.2

def LocatedToken (text : List Char) (e : List (Firing σ) × Firing σ) (token : Token) : Prop :=
  LocatedBehind text e.1 token.offset token.location

theorem Trail.locatedBehind {before after : List (Turn σ)}
    (trail : Trail l s (before ++ .consumed f :: after) t)
    (fits : 1 + text.length < UInt64.size) (anchored : l.StartsAtCursor text)
    (onTrack : s.OnTrack text 0) (counts : ∀ f ∈ matched before, f.CountsBreaks) :
    LocatedBehind text (matched before) f.offset f.location := by
  obtain ⟨u, first, second⟩ := trail.split
  have reached := first.onTrack fits anchored onTrack counts
  rw [Nat.zero_add] at reached
  cases second with
  | cons step later =>
      rw [← reached.text_eq] at anchored
      obtain ⟨-, offset, location⟩ := (meets_of_consumed step).begins anchored
      rw [offset, location]
      exact reached.located

variable {state after : σ} {items : List Item}

theorem Calls.located (calls : Calls l s state turns items t after)
    (fits : 1 + text.length < UInt64.size) (anchored : l.StartsAtCursor text)
    (onTrack : s.OnTrack text 0) (counts : ∀ f ∈ matched turns, f.CountsBreaks) :
    LocatedBehind text (matched turns) t.offset t.location ∧
      List.Forall₂ (LocatedToken text) (emitted [] turns) (tokensOf items) := by
  have trail := calls.trail
  have reached := trail.onTrack fits anchored onTrack counts
  rw [Nat.zero_add] at reached
  refine ⟨reached.located, ?_⟩
  apply calls.forall₂_emitted
  intro before f behind value split
  rw [split] at trail counts
  rw [matched_append, List.forall_mem_append] at counts
  exact trail.locatedBehind fits anchored onTrack counts.1

/-- Advancing over a text in two pieces comes to the same column as over the whole, and to the same
number of line breaks, or one more if a carriage return and a line feed are torn apart.

Take a scanner at the start of a text, and a number of calls for the next token.  If the line
breaks in all matches count, then the tokens and the scanner are in the column that is behind the
whole text before them.  They are in the line that is behind it, or at most as many further as
matches before them begin between a carriage return and a line feed. -/
theorem nextTimes_locations {l : Lexer σ} {text : List Char}
    (fits : 1 + text.length < UInt64.size) (anchored : l.StartsAtCursor text)
    {s : Scanner} (begins : s.spot = .start text) (first : s.location = .start) (n : Nat)
    (state : σ) :
    (∀ (loc : Location) (a b : List Char),
      (loc.advance (a ++ b) .scan).1.col = ((loc.advance a .scan).1.advance b .scan).1.col ∧
      (loc.advance (a ++ b) .scan).2 ≤
        (loc.advance a .scan).2 + ((loc.advance a .scan).1.advance b .scan).2 ∧
      (loc.advance a .scan).2 + ((loc.advance a .scan).1.advance b .scan).2 ≤
        (loc.advance (a ++ b) .scan).2 + if Lines.tears a b then 1 else 0) ∧
    ∃ turns,
      Calls l s state turns (nextTimes l n s state).1 (nextTimes l n s state).2.1
        (nextTimes l n s state).2.2 ∧
      ((∀ f ∈ matched turns, f.CountsBreaks) →
        LocatedBehind text (matched turns) (nextTimes l n s state).2.1.offset
          (nextTimes l n s state).2.1.location ∧
        List.Forall₂ (LocatedToken text) (emitted [] turns)
          (tokensOf (nextTimes l n s state).1)) := by
  refine ⟨fun loc a b => ?_, ?_⟩
  · rw [Location.breaks_scan, Location.breaks_scan, Location.breaks_scan]
    exact ⟨loc.col_scan_append a b, Lines.breakCount_append a b⟩
  · obtain ⟨turns, calls⟩ := nextTimes_spec l n s state
    have onTrack : s.OnTrack text 0 := by
      refine ⟨by rw [Scanner.text, begins]; rfl, ?_⟩
      rw [begins, first]
      exact .start
    exact ⟨turns, calls, calls.located fits anchored onTrack⟩

def breakModes : List (Mode Unit) :=
  [⟨"main", [(Rule.literal "return" "\r").countLineBreaks,
    (Rule.literal "feed" "\n").countLineBreaks.discard, (Rule.regex "word" "a+").countLineBreaks]⟩]

theorem breakModes_locations : ∃ l, Lexer.ofModes breakModes = .ok l ∧ ∃ turns,
    Calls l (.start "a\r\na".toList) () turns
      (nextTimes l 4 (.start "a\r\na".toList) ()).1
      (nextTimes l 4 (.start "a\r\na".toList) ()).2.1 () ∧
    (∀ f ∈ matched turns, f.CountsBreaks) ∧
    LocatedBehind "a\r\na".toList (matched turns)
      (nextTimes l 4 (.start "a\r\na".toList) ()).2.1.offset
      (nextTimes l 4 (.start "a\r\na".toList) ()).2.1.location ∧
    List.Forall₂ (LocatedToken "a\r\na".toList) (emitted [] turns)
      (tokensOf (nextTimes l 4 (.start "a\r\na".toList) ()).1) := by
  obtain ⟨l, ok, counted⟩ := exists_of_any (x := Lexer.ofModes breakModes)
    (p := fun l => l.modes.all fun mode => mode.entries.all fun e => e.lineBreaks = .scan)
    (by decide)
  have anchored := Lexer.startsAtCursor_of_ofModes ok (by decide) "a\r\na".toList
  obtain ⟨-, turns, calls, located⟩ :=
    nextTimes_locations (by decide) anchored (s := .start "a\r\na".toList) rfl rfl 4 ()
  have counts : ∀ f ∈ matched turns, f.CountsBreaks := by
    intro f member
    obtain ⟨mode, inModes, inEntries⟩ := calls.trail.entry_mem member
    have each := List.all_eq_true.1 (List.all_eq_true.1 counted mode inModes) f.entry inEntries
    exact .inl (of_decide_eq_true each)
  exact ⟨l, ok, turns, calls, counts, located counts⟩

def lostColumnRules : List (Rule Unit) :=
  [.regex "pair" "(a)(b){0}", .regex "c" "xy(d)", .regex "e" "e"]

/-- The second rule matches three characters.  The third, which has the number of its group, fires
with the last of them, and the column is that behind one character. -/
theorem lostColumnRules_locations : ∃ l, Lexer.ofRules lostColumnRules = .ok l ∧
    ∃ turns item t, Next l (.start "xyd".toList) () turns item t () ∧
      (∀ f ∈ matched turns, f.CountsBreaks) ∧
      ∃ front, slice? "xyd".toList 0 t.offset = some front ∧
        t.location.col ≠ (Location.behind front).col := by
  obtain ⟨l, ok, first⟩ := exists_of_any (x := Lexer.ofRules lostColumnRules)
    (p := fun l =>
      match (Scanner.start "xyd".toList).turn l with
      | (.consumed f, t) => !f.entry.discard && f.entry.lineBreaks = .none &&
          f.chars.all (!Lines.isBreak ·) && t.offset = 3 && t.location.col = 2
      | _ => false)
    (by decide)
  split at first
  · next f t step =>
      simp only [Bool.and_eq_true, Bool.not_eq_true', decide_eq_true_eq, List.all_eq_true]
        at first
      obtain ⟨⟨⟨⟨kept, policy⟩, plain⟩, offset⟩, col⟩ := first
      refine ⟨l, ok, _, _, t, .token step kept, ?_, "xyd".toList, ?_, ?_⟩
      · intro g member
        obtain rfl := List.mem_singleton.1 member
        exact .inr ⟨policy, plain⟩
      · rw [offset]
        decide
      · rw [col]
        decide
  · cases first

end Scanner

end ModalLexer
