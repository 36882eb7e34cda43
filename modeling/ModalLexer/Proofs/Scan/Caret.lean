import ModalLexer.Proofs.Scan.Locations
import ModalLexer.Scan.Diagnostic

/-! # The caret points at the token

The report of a token shows the line around its offset, found by looking for the nearest characters
that end a line.  The column of the token was counted along the scan.  If no match has left the
scanner in a wrong column, then the caret is indented by as many blanks as characters of the line
stand before the token (`Scanner.nextTimes_carets`), also where a match begins inside a break of two
characters.

As for locations, matches must start where they are looked for
(`Scanner.lostColumnRules_carets`). -/
set_option autoImplicit false
namespace ModalLexer

variable {σ : Type}

namespace Lines

structure IsLine (before line after : List Char) : Prop where
  plain : ∀ c ∈ line, isBreak c = false
  begins : ∀ c, before.getLast? = some c → isBreak c = true
  ends : ∀ c, after.head? = some c → isBreak c = true

theorem exists_head (text : List Char) : ∃ after, text = head text ++ after ∧
    ∀ c, after.head? = some c → isBreak c = true :=
  ⟨text.dropWhile (!isBreak ·), List.takeWhile_append_dropWhile.symm,
    fun _ first => isBreak_of_head?_dropWhile first⟩

theorem exists_line (front back : List Char) : ∃ before after,
    front = before ++ tail front ∧ back = head back ++ after ∧
      IsLine before (tail front ++ head back) after := by
  obtain ⟨before, whole, begins⟩ := exists_tail front
  obtain ⟨after, whole', ends⟩ := exists_head back
  refine ⟨before, after, whole, whole', ?_, begins, ends⟩
  intro c member
  rcases List.mem_append.1 member with inFront | inBack
  · exact not_isBreak_of_mem_takeWhile (List.mem_reverse.1 inFront)
  · exact not_isBreak_of_mem_takeWhile inBack

theorem head_head? {text : List Char} {c : Char} (first : text.head? = some c)
    (plain : isBreak c = false) : (head text).head? = some c := by
  obtain ⟨rest, rfl⟩ := List.head?_eq_some_iff.1 first
  simp [head, plain]

theorem tail_concat_of_isBreak {c : Char} (breaks : isBreak c = true) (text : List Char) :
    tail (text ++ [c]) = [] := by
  simp [tail, breaks]

end Lines

theorem cutBefore_byteLength (front back : List Char) :
    cutBefore (byteLength front) (front ++ back) = (front, back) := by
  induction front with
  | nil =>
      cases back with
      | nil => rfl
      | cons c back =>
          have positive := c.utf8Size_pos
          rw [List.nil_append, byteLength, cutBefore, if_pos positive]
  | cons c front ih =>
      have behind : byteLength (c :: front) - c.utf8Size = byteLength front := by
        rw [byteLength]
        omega
      have fits : ¬ byteLength (c :: front) < c.utf8Size := by
        rw [byteLength]
        omega
      rw [List.cons_append, cutBefore, if_neg fits, behind, ih]

theorem Diagnostic.message_eq (d : Diagnostic) : d.message =
    s!"Error: {d.kind} at line {d.location.line} col {d.location.col}:\n\n" ++ d.line ++ "\n" ++
      .ofList (List.replicate (d.location.col.toNat - 1) ' ') ++ "^" := by
  delta message
  simp only [String.append_assoc]
  rfl

theorem lineAround_spot (s : Spot) :
    lineAround s.text s.offset = Lines.tail s.past.reverse ++ Lines.head s.rest := by
  have cut := cutBefore_byteLength s.past.reverse s.rest
  rw [byteLength_reverse, ← s.offset_eq] at cut
  rw [lineAround, Spot.text, cut]

/-- The report of a token shows a line of the text, and in it the token stands behind as many
characters as the caret behind blanks. -/
structure StandsIn (text : List Char) (token : Token) (before front back after : List Char) :
    Prop where
  whole : text = before ++ (front ++ back) ++ after
  line : Lines.IsLine before (front ++ back) after
  shown : (Diagnostic.ofToken text token).line = .ofList (front ++ back)
  indent : token.col.toNat = 1 + front.length
  offset : slice? text (byteLength before) token.offset = some front
  caret : ∃ title, (Diagnostic.ofToken text token).message =
    title ++ .ofList (front ++ back) ++ "\n" ++ .ofList (List.replicate front.length ' ') ++ "^"
  /-- The caret is under the character that the token begins with, if this is in the line. -/
  under : ∀ c, (Spot.at? text token.offset).bind Spot.after? = some c → Lines.isBreak c = false →
    (front ++ back)[token.col.toNat - 1]? = some c

def PointsAt (text : List Char) (token : Token) : Prop :=
  ∃ before front back after, StandsIn text token before front back after

/-- A report points at its token if the column is that behind the part of the line before it. -/
theorem pointsAt_of_col {s : Spot} {token : Token} (offset : token.offset = s.offset)
    (col : token.col.toNat = 1 + (Lines.tail s.past.reverse).length) : PointsAt s.text token := by
  obtain ⟨before, after, past, rest, line⟩ := Lines.exists_line s.past.reverse s.rest
  have shown : (Diagnostic.ofToken s.text token).line =
      .ofList (Lines.tail s.past.reverse ++ Lines.head s.rest) := by
    rw [Diagnostic.ofToken, offset, lineAround_spot]
  have indent : token.col.toNat - 1 = (Lines.tail s.past.reverse).length := by omega
  have whole : s.text = before ++ (Lines.tail s.past.reverse ++ Lines.head s.rest) ++ after := by
    rw [Spot.text]
    nth_rewrite 1 [past]
    nth_rewrite 1 [rest]
    simp only [List.append_assoc]
  refine ⟨before, _, _, after, whole, line, shown, col, ?_, ?_, ?_⟩
  · let start : Spot := .mkAt before.reverse (Lines.tail s.past.reverse ++ s.rest)
    have leads : Spot.Leads start (Lines.tail s.past.reverse) s := by
      refine ⟨rfl, ?_⟩
      have split := congrArg List.reverse past
      rwa [List.reverse_reverse, List.reverse_append] at split
    have cut := slice?_of_leads leads
    rw [← leads.text_eq, ← offset] at cut
    rw [← byteLength_reverse before]
    exact cut
  · refine ⟨s!"Error: {token.kind} at line {token.line} col {token.col}:\n\n", ?_⟩
    rw [Diagnostic.message_eq, shown, ← indent]
    rfl
  · intro c first plain
    have here : Spot.at? s.text token.offset = some s :=
      Spot.at?_eq_some_iff.2 ⟨rfl, offset.symm⟩
    rw [here, Option.bind_some] at first
    rw [indent, List.getElem?_append_right (Nat.le_refl _), Nat.sub_self,
      ← List.head?_eq_getElem?]
    exact Lines.head_head? first plain

namespace Location

theorem col_scan_tail {loc : Location} {front : List Char}
    (col : Further 1 (Lines.tail front).length loc.col) (piece : List Char) :
    Further 1 (Lines.tail (front ++ piece)).length (loc.advance piece .scan).1.col := by
  by_cases plain : Lines.breakCount piece = 0
  · rw [advance_scan_of_zero plain, Lines.tail_append_of_breakCount_eq_zero plain,
      List.length_append]
    exact col.trans (further_add loc.col piece.length)
  · rw [advance_scan_of_ne_zero plain, Lines.tail_append_of_breakCount_ne_zero plain]
    exact further_iff.2 (UInt64.add_comm _ 1)

end Location

namespace Firing

/-- The column behind a match is that behind its text: the line breaks in it count, or it ends with
one and is taken for some number of them. -/
def KeepsColumn (f : Firing σ) : Prop :=
  f.CountsBreaks ∨ ∃ n c, f.entry.lineBreaks = .fixed n ∧ f.chars.getLast? = some c ∧
    Lines.isBreak c = true

theorem KeepsColumn.col_advance {f : Firing σ} {front : List Char} (keeps : f.KeepsColumn)
    (col : Further 1 (Lines.tail front).length f.location.col) :
    Further 1 (Lines.tail (front ++ f.chars)).length f.advance.1.col := by
  rcases keeps with counts | ⟨n, c, policy, last, breaks⟩
  · rw [counts.advance_eq]
    exact Location.col_scan_tail col f.chars
  · obtain ⟨init, chars⟩ := List.getLast?_eq_some_iff.1 last
    have fresh : Lines.tail (front ++ f.chars) = [] := by
      rw [chars, ← List.append_assoc]
      exact Lines.tail_concat_of_isBreak breaks _
    rw [advance, policy, fresh]
    exact further_zero 1

end Firing

namespace Scanner

variable {l : Lexer σ} {s t : Scanner} {turn : Turn σ} {turns : List (Turn σ)} {text : List Char}

/-- A scanner in the column behind the part of the line it has gone through. -/
structure InColumn (text : List Char) (s : Scanner) : Prop where
  text_eq : s.text = text
  col : Further 1 (Lines.tail s.spot.past.reverse).length s.location.col

theorem InColumn.of_turn (inColumn : s.InColumn text) (anchored : l.StartsAtCursor text)
    (step : s.turn l = (turn, t)) (keeps : ∀ f ∈ matched [turn], f.KeepsColumn) :
    t.InColumn text := by
  obtain ⟨rfl, col⟩ := inColumn
  cases moved : turn.moved? with
  | none =>
      obtain ⟨spot, location⟩ := unmoved_cases step moved
      exact ⟨by rw [Scanner.text, spot, Scanner.text], by rw [spot, location]; exact col⟩
  | some f =>
      have leads := leads_of_moved anchored step moved
      obtain ⟨meets, -, location⟩ := cases_of_moved step moved
      obtain ⟨-, -, here⟩ := meets.begins anchored
      rw [matched, List.filterMap_cons_some moved, List.filterMap_nil] at keeps
      rw [← here] at col
      have behind := (keeps f List.mem_cons_self).col_advance col
      refine ⟨leads.text_eq, ?_⟩
      rw [location, leads.2, List.reverse_append, List.reverse_reverse]
      exact behind

theorem Trail.inColumn (trail : Trail l s turns t) (anchored : l.StartsAtCursor text)
    (inColumn : s.InColumn text) (keeps : ∀ f ∈ matched turns, f.KeepsColumn) :
    t.InColumn text := by
  induction trail with
  | nil s => exact inColumn
  | @cons s t u turn turns step later ih =>
      rw [matched_cons, List.forall_mem_append] at keeps
      exact ih (inColumn.of_turn anchored step keeps.1) keeps.2

theorem InColumn.col_eq (inColumn : s.InColumn text) (fits : 1 + text.length < UInt64.size) :
    s.location.col.toNat = 1 + (Lines.tail s.spot.past.reverse).length := by
  obtain ⟨before, whole, -⟩ := Lines.exists_tail s.spot.past.reverse
  rw [← inColumn.text_eq, Scanner.text, Spot.text, whole, List.length_append,
    List.length_append] at fits
  exact inColumn.col.exact (by rw [UInt64.toNat_one]; omega)

/-- A match that is looked for in the right column gives tokens that reports point at. -/
theorem Trail.pointsAt {before after : List (Turn σ)} {f : Firing σ}
    (trail : Trail l s (before ++ .consumed f :: after) t)
    (fits : 1 + text.length < UInt64.size) (anchored : l.StartsAtCursor text)
    (inColumn : s.InColumn text) (keeps : ∀ f ∈ matched before, f.KeepsColumn) (value : Value) :
    PointsAt text (f.token value) := by
  obtain ⟨u, first, second⟩ := trail.split
  have reached := first.inColumn anchored inColumn keeps
  have col := reached.col_eq fits
  cases second with
  | cons step later =>
      rw [← reached.text_eq] at anchored
      obtain ⟨-, offset, location⟩ := (meets_of_consumed step).begins anchored
      rw [← location] at col
      rw [← reached.text_eq]
      exact pointsAt_of_col (s := u.spot) offset col

variable {state after : σ} {items : List Item}

theorem Calls.pointAt (calls : Calls l s state turns items t after)
    (fits : 1 + text.length < UInt64.size) (anchored : l.StartsAtCursor text)
    (inColumn : s.InColumn text) :
    List.Forall₂ (fun e token => (∀ f ∈ e.1, f.KeepsColumn) → PointsAt text token)
      (emitted [] turns) (tokensOf items) := by
  have trail := calls.trail
  apply calls.forall₂_emitted
  intro before f behind value split keeps
  rw [split] at trail
  exact trail.pointsAt fits anchored inColumn keeps value

/-- Take a scanner at the start of a text, and a number of calls for the next token.  If all matches
before a token keep the scanner in the column, then the report of the token shows a line of the
text, and the caret is indented by as many blanks as characters of the line stand before the
token. -/
theorem nextTimes_carets {l : Lexer σ} {text : List Char}
    (fits : 1 + text.length < UInt64.size) (anchored : l.StartsAtCursor text)
    {s : Scanner} (begins : s.spot = .start text) (first : s.location = .start) (n : Nat)
    (state : σ) : ∃ turns,
      Calls l s state turns (nextTimes l n s state).1 (nextTimes l n s state).2.1
        (nextTimes l n s state).2.2 ∧
      List.Forall₂ (fun e token => (∀ f ∈ e.1, f.KeepsColumn) → PointsAt text token)
        (emitted [] turns) (tokensOf (nextTimes l n s state).1) := by
  obtain ⟨turns, calls⟩ := nextTimes_spec l n s state
  have inColumn : s.InColumn text := by
    refine ⟨by rw [Scanner.text, begins]; rfl, ?_⟩
    rw [begins, first]
    exact further_zero 1
  exact ⟨turns, calls, calls.pointAt fits anchored inColumn⟩

def linedModes : List (Mode Unit) :=
  [⟨"main", [((Rule.literal "feed" "\n").lineBreaks 1).discard,
    (Rule.literal "accented" "é").discard, .literal "plain" "a"]⟩]

/-- The caret stands behind one blank, under the second letter of the second line. -/
theorem linedModes_carets : ∃ l, Lexer.ofModes linedModes = .ok l ∧ ∃ turns token,
    Calls l (.start "\néa".toList) () turns (nextTimes l 1 (.start "\néa".toList) ()).1
      (nextTimes l 1 (.start "\néa".toList) ()).2.1 () ∧
    tokensOf (nextTimes l 1 (.start "\néa".toList) ()).1 = [token] ∧ token.col = 2 ∧
    PointsAt "\néa".toList token := by
  obtain ⟨l, ok, three⟩ := exists_of_any (x := Lexer.ofModes linedModes)
    (p := fun l => (Scanner.start "\néa".toList).consumes l fun f t =>
      (f.entry.discard && f.entry.lineBreaks = .fixed 1 && f.chars = ['\n']) &&
        t.consumes l fun g u =>
          (g.entry.discard && g.entry.lineBreaks = .none && g.chars = ['é']) &&
            u.consumes l fun h _ => !h.entry.discard && h.location.col = 2)
    (by decide)
  simp only [consumes_iff, Bool.and_eq_true, Bool.not_eq_true', decide_eq_true_eq] at three
  obtain ⟨f, t, first, ⟨⟨dropped, policy⟩, feed⟩, g, u, second, ⟨⟨dropped', policy'⟩, accented⟩,
    h, v, third, kept, col⟩ := three
  have call : Next l _ () _ _ v () :=
    .discarded first dropped (.discarded second dropped' (.token third kept))
  have given : nextTimes l 1 (.start "\néa".toList) () =
      ([.ok (some (h.token (h.value ()).1))], v, ()) := by
    simp only [nextTimes, call.next_eq]
  have anchored := Lexer.startsAtCursor_of_ofModes ok (by decide) "\néa".toList
  obtain ⟨turns, calls, points⟩ :=
    nextTimes_carets (by decide) anchored (s := .start "\néa".toList) rfl rfl 1 ()
  rw [given] at calls points
  have taken : turns = [.consumed f, .consumed g, .consumed h] := by
    cases calls with
    | cons call' later =>
        cases later
        rw [List.append_nil]
        exact call.turns_unique call'
  have behind : emitted [] turns = [([f, g], h)] := by
    simp [taken, emitted, dropped, dropped', kept]
  have keeps : ∀ b ∈ [f, g], b.KeepsColumn := by
    intro b member
    rcases List.mem_pair.1 member with rfl | rfl
    · exact .inr ⟨1, '\n', policy, by rw [feed]; rfl, by decide⟩
    · refine .inl (.inr ⟨policy', ?_⟩)
      rw [accented]
      exact List.forall_mem_singleton.2 (by decide)
  rw [behind] at points
  refine ⟨l, ok, turns, h.token (h.value ()).1, ?_, ?_, col, ?_⟩
  · rw [given]
    exact calls
  · rw [given]
    rfl
  · cases points with
    | cons point rest => exact point keeps

/-- The second rule matches three characters, twice.  The third, which has the number of its group,
fires with the last of them; the second time it does so at an offset of 3, and in the second
column. -/
theorem lostColumnRules_carets : ∃ l, Lexer.ofRules lostColumnRules = .ok l ∧
    ∃ turns items t, Calls l (.start "xydxyd".toList) () turns items t () ∧
      (∀ f ∈ matched turns, f.KeepsColumn) ∧
      ∃ token ∈ tokensOf items, ¬ PointsAt "xydxyd".toList token := by
  obtain ⟨l, ok, twice⟩ := exists_of_any (x := Lexer.ofRules lostColumnRules)
    (p := fun l => (Scanner.start "xydxyd".toList).consumes l fun f t =>
      (!f.entry.discard && f.entry.lineBreaks = .none && f.chars.all (!Lines.isBreak ·)) &&
        t.consumes l fun g _ =>
          (!g.entry.discard && g.entry.lineBreaks = .none && g.chars.all (!Lines.isBreak ·)) &&
            (g.offset = 3 && g.location.col = 2))
    (by decide)
  simp only [consumes_iff, Bool.and_eq_true, Bool.not_eq_true', decide_eq_true_eq,
    List.all_eq_true] at twice
  obtain ⟨f, t, first, ⟨⟨kept, policy⟩, plain⟩, g, u, second, ⟨⟨kept', policy'⟩, plain'⟩,
    offset, col⟩ := twice
  refine ⟨l, ok, _, _, u, .cons (.token first kept) (.cons (.token second kept') (.nil u ())), ?_,
    _, .tail _ (.head _), ?_⟩
  · intro h member
    rcases List.mem_pair.1 member with rfl | rfl
    · exact .inl (.inr ⟨policy, plain⟩)
    · exact .inl (.inr ⟨policy', plain'⟩)
  · rintro ⟨before, front, back, after, whole, line, -, indent, cut, -, -⟩
    -- The text is one line, so the three characters before its offset stand before the token in it.
    have oneLine : "xydxyd".toList.all (!Lines.isBreak ·) = true := by decide
    have start : before = [] := by
      cases last : before.getLast? with
      | none => exact List.getLast?_eq_none_iff.1 last
      | some c =>
          have inside : c ∈ "xydxyd".toList := by
            rw [whole]
            simp [List.mem_of_getLast? last]
          have plain := List.all_eq_true.1 oneLine c inside
          rw [line.begins c last] at plain
          cases plain
    have three : slice? "xydxyd".toList 0 3 = some "xyd".toList := by decide
    simp only [Firing.token, start, byteLength, offset, three] at cut
    simp only [Firing.token, col, ← Option.some.inj cut] at indent
    exact absurd indent (by decide)

end Scanner

end ModalLexer
