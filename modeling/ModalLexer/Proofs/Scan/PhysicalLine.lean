import ModalLexer.Proofs.Scan.Caret

/-! # The physical line around an offset

The search for a line goes by bytes.  It steps back from the offset to a place between two
characters, looks backwards and forwards from there for the nearest characters that end a line, and
cuts the text at what it found (`lineBounds?`).  A cut off a place would fail.  None does, for no
offset whatever, and the line is the only one around the place reached (`lineAround_exact`). -/
set_option autoImplicit false
namespace ModalLexer

variable {text front back : List Char} {offset p q start stop : Nat} {c : Char}

/-- The last place of a text that is not beyond an offset, found by going back byte by byte. -/
def stepBack (text : List Char) : Nat → Nat
  | 0 => 0
  | n + 1 => if (Spot.at? text (n + 1)).isSome then n + 1 else stepBack text n

def placeAt (text : List Char) (offset : Nat) : Nat := stepBack text (min offset (byteLength text))

namespace Lines

def lastBreak? : List Char → Option Nat
  | [] => none
  | c :: earlier => if isBreak c then some (byteLength earlier) else lastBreak? earlier

def firstBreak? : List Char → Option Nat
  | [] => none
  | c :: later => if isBreak c then some 0 else (firstBreak? later).map (c.utf8Size + ·)

theorem utf8Size_of_isBreak (breaks : isBreak c = true) : c.utf8Size = 1 := by
  have either : c = '\r' ∨ c = '\n' := by simpa [isBreak] using breaks
  rcases either with rfl | rfl <;> rfl

theorem lastBreak?_elim (front : List Char) :
    (lastBreak? front.reverse).elim 0 (· + 1) + byteLength (tail front) = byteLength front := by
  rw [tail, byteLength_reverse, ← byteLength_reverse front]
  induction front.reverse with
  | nil => rfl
  | cons c earlier ih =>
      by_cases breaks : isBreak c = true
      · have size := utf8Size_of_isBreak breaks
        simp only [lastBreak?, breaks, if_true, Option.elim_some, List.takeWhile_cons,
          Bool.not_true, Bool.false_eq_true, if_false, byteLength, size]
        omega
      · simp only [lastBreak?, breaks, Bool.false_eq_true, if_false, List.takeWhile_cons,
          Bool.not_false, if_true, byteLength]
        omega

theorem firstBreak?_elim (back : List Char) (place : Nat) :
    (firstBreak? back).elim (place + byteLength back) (place + ·) =
      place + byteLength (head back) := by
  induction back generalizing place with
  | nil => rfl
  | cons c later ih =>
      by_cases breaks : isBreak c = true
      · simp [firstBreak?, head, breaks, byteLength]
      · have further := ih (place + c.utf8Size)
        simp only [head] at further ⊢
        cases found : firstBreak? later with
        | none =>
            simp only [found, Option.elim_none] at further
            simp only [firstBreak?, breaks, found, Bool.false_eq_true, if_false, Option.map_none,
              Option.elim_none, List.takeWhile_cons, Bool.not_false, if_true, byteLength]
            omega
        | some i =>
            simp only [found, Option.elim_some] at further
            simp only [firstBreak?, breaks, found, Bool.false_eq_true, if_false, Option.map_some,
              Option.elim_some, List.takeWhile_cons, Bool.not_false, if_true, byteLength]
            omega

end Lines

/-- Where the line around an offset begins and ends, unless a cut is off a place of the text. -/
def lineBounds? (text : List Char) (offset : Nat) : Option (Nat × Nat) := do
  let front ← slice? text 0 (placeAt text offset)
  let back ← slice? text (placeAt text offset) (byteLength text)
  return ((Lines.lastBreak? front.reverse).elim 0 (· + 1),
    (Lines.firstBreak? back).elim (byteLength text) (placeAt text offset + ·))

/-! ## Places and slices -/

theorem exists_between {front' back' : List Char} (same : front ++ back = front' ++ back')
    (le : byteLength front ≤ byteLength front') :
    ∃ mid, front' = front ++ mid ∧ back = mid ++ back' := by
  rcases List.append_eq_append_iff.1 same with ⟨mid, whole, rest⟩ | ⟨mid, whole, rest⟩
  · exact ⟨mid, whole, rest⟩
  · have empty : mid = [] := by
      rw [← byteLength_eq_zero_iff]
      rw [whole, byteLength_append] at le
      omega
    refine ⟨[], ?_, ?_⟩
    · simp [whole, empty]
    · simp [rest, empty]

theorem isSome_at?_iff : (Spot.at? text p).isSome ↔
    ∃ front back, text = front ++ back ∧ byteLength front = p := by
  simp only [Option.isSome_iff_exists, Spot.at?_eq_some_iff]
  constructor
  · rintro ⟨s, rfl, rfl⟩
    exact ⟨s.past.reverse, s.rest, rfl, by rw [byteLength_reverse, s.offset_eq]⟩
  · rintro ⟨front, back, rfl, rfl⟩
    exact ⟨.mkAt front.reverse back, by simp [Spot.text, Spot.mkAt], by simp [Spot.mkAt]⟩

theorem slice?_eq_some_iff {piece : List Char} : slice? text start stop = some piece ↔
    ∃ before after, text = before ++ piece ++ after ∧ byteLength before = start ∧
      byteLength before + byteLength piece = stop := by
  constructor
  · intro cut
    rw [slice?] at cut
    split at cut
    · cases cut
    · next le =>
        obtain ⟨s, first, cut⟩ := Option.bind_eq_some_iff.1 cut
        obtain ⟨t, second, rfl⟩ := Option.map_eq_some_iff.1 cut
        obtain ⟨whole, begins⟩ := Spot.at?_eq_some_iff.1 first
        obtain ⟨whole', ends⟩ := Spot.at?_eq_some_iff.1 second
        have sizes : byteLength s.past.reverse ≤ byteLength t.past.reverse := by
          rw [byteLength_reverse, byteLength_reverse, ← s.offset_eq, ← t.offset_eq]
          omega
        obtain ⟨mid, past, rest⟩ := exists_between (whole.trans whole'.symm) sizes
        have leads : Spot.Leads s mid t := by
          refine ⟨rest, ?_⟩
          rw [← List.reverse_reverse t.past, past, List.reverse_append, List.reverse_reverse]
        rw [leads.upTo_eq]
        refine ⟨s.past.reverse, t.rest, ?_, ?_, ?_⟩
        · rw [← whole', Spot.text, past]
        · rw [byteLength_reverse, ← s.offset_eq, begins]
        · rw [byteLength_reverse, ← s.offset_eq, ← leads.offset_eq, ends]
  · rintro ⟨before, after, rfl, rfl, rfl⟩
    let s : Spot := .mkAt before.reverse (piece ++ after)
    let t : Spot := .mkAt (piece.reverse ++ before.reverse) after
    have cut := slice?_of_leads (show Spot.Leads s piece t from ⟨rfl, rfl⟩)
    simpa [s, t, Spot.text, Spot.mkAt, Nat.add_comm] using cut

theorem slice?_append (before piece after : List Char) :
    slice? (before ++ piece ++ after) (byteLength before) (byteLength before + byteLength piece) =
      some piece :=
  slice?_eq_some_iff.2 ⟨before, after, rfl, rfl, rfl⟩

theorem mem_of_slice? {piece : List Char} (cut : slice? text start stop = some piece)
    (single : slice? text q (q + 1) = some [c]) (first : start ≤ q) (last : q + 1 ≤ stop) :
    c ∈ piece := by
  obtain ⟨before, after, whole, rfl, rfl⟩ := slice?_eq_some_iff.1 cut
  obtain ⟨before', after', whole', rfl, next⟩ := slice?_eq_some_iff.1 single
  have same : before ++ (piece ++ after) = before' ++ ([c] ++ after') := by
    rw [← List.append_assoc, ← List.append_assoc, ← whole, ← whole']
  obtain ⟨mid, rfl, inner⟩ := exists_between same first
  rw [← List.append_assoc] at inner
  rw [byteLength_append] at next last
  have sizes : byteLength (mid ++ [c]) ≤ byteLength piece := by
    rw [byteLength_append]
    omega
  obtain ⟨rest, rfl, -⟩ := exists_between inner.symm sizes
  simp

/-! ## The place at which a line is looked for -/

/-- The largest offset of a place that is beyond neither an offset nor the text. -/
structure LastPlace (text : List Char) (offset p : Nat) : Prop where
  place : (Spot.at? text p).isSome
  le : p ≤ min offset (byteLength text)
  greatest : ∀ q, (Spot.at? text q).isSome → q ≤ min offset (byteLength text) → q ≤ p

theorem LastPlace.unique (first : LastPlace text offset p) (second : LastPlace text offset q) :
    p = q :=
  Nat.le_antisymm (second.greatest p first.place first.le)
    (first.greatest q second.place second.le)

theorem lastPlace_placeAt (text : List Char) (offset : Nat) :
    LastPlace text offset (placeAt text offset) := by
  -- Going back from any offset leads to the last place before it.
  have back (n : Nat) : (Spot.at? text (stepBack text n)).isSome ∧ stepBack text n ≤ n ∧
      ∀ q, (Spot.at? text q).isSome → q ≤ n → q ≤ stepBack text n := by
    induction n with
    | zero => exact ⟨isSome_at?_iff.2 ⟨[], text, rfl, rfl⟩, Nat.le_refl 0, fun _ _ le => le⟩
    | succ n ih =>
        obtain ⟨place, le, greatest⟩ := ih
        by_cases here : (Spot.at? text (n + 1)).isSome
        · rw [stepBack, if_pos here]
          exact ⟨here, Nat.le_refl _, fun _ _ le => le⟩
        · rw [stepBack, if_neg here]
          refine ⟨place, by omega, ?_⟩
          intro q isPlace le
          apply greatest q isPlace
          have other : q ≠ n + 1 := by
            rintro rfl
            exact here isPlace
          omega
  obtain ⟨place, le, greatest⟩ := back (min offset (byteLength text))
  exact ⟨place, le, greatest⟩

theorem cutBefore_spec (text : List Char) (offset : Nat) :
    text = (cutBefore offset text).1 ++ (cutBefore offset text).2 ∧
      byteLength (cutBefore offset text).1 ≤ offset ∧
      ∀ c, (cutBefore offset text).2.head? = some c →
        offset < byteLength (cutBefore offset text).1 + c.utf8Size := by
  induction text generalizing offset with
  | nil => simp [cutBefore, byteLength]
  | cons c rest ih =>
      by_cases beyond : offset < c.utf8Size
      · simp [cutBefore, beyond, byteLength]
      · obtain ⟨whole, le, next⟩ := ih (offset - c.utf8Size)
        simp only [cutBefore, beyond, if_false, List.cons_append, List.cons.injEq, true_and,
          byteLength]
        refine ⟨whole, by omega, ?_⟩
        intro d first
        have further := next d first
        omega

theorem lastPlace_cutBefore (text : List Char) (offset : Nat) :
    LastPlace text offset (byteLength (cutBefore offset text).1) := by
  obtain ⟨whole, le, next⟩ := cutBefore_spec text offset
  generalize (cutBefore offset text).1 = front at *
  generalize (cutBefore offset text).2 = back at *
  have inside : byteLength front ≤ byteLength text := by
    rw [whole, byteLength_append]
    omega
  refine ⟨isSome_at?_iff.2 ⟨front, back, whole, rfl⟩, by omega, ?_⟩
  intro q place bound
  obtain ⟨front', back', whole', rfl⟩ := isSome_at?_iff.1 place
  by_contra further
  obtain ⟨mid, rfl, rest⟩ := exists_between (whole.symm.trans whole') (by omega)
  cases mid with
  | nil => simp at further
  | cons d mid =>
      have reach := next d (by simp [rest])
      rw [byteLength_append, byteLength] at bound
      omega

/-- The text is cut at the place of an offset, and the line around the offset is around the cut. -/
theorem exists_cut (text : List Char) (offset : Nat) : ∃ front back, text = front ++ back ∧
    byteLength front = placeAt text offset ∧
      lineAround text offset = Lines.tail front ++ Lines.head back := by
  obtain ⟨whole, -⟩ := cutBefore_spec text offset
  exact ⟨_, _, whole, (lastPlace_cutBefore text offset).unique (lastPlace_placeAt text offset), rfl⟩

/-! ## The line around a place -/

/-- A piece of a text, by its ends, around a place: there is no line break in it, and it goes from
one character that ends a line, or the start of the text, to the next one, or its end. -/
structure Encloses (text : List Char) (p start stop : Nat) (line : List Char) : Prop where
  start_le : start ≤ p
  le_stop : p ≤ stop
  cut : slice? text start stop = some line
  plain : ∀ c ∈ line, Lines.isBreak c = false
  begins : start = 0 ∨ ∃ q c, start = q + 1 ∧ slice? text q (q + 1) = some [c] ∧
    Lines.isBreak c = true
  ends : stop = byteLength text ∨ ∃ c, slice? text stop (stop + 1) = some [c] ∧
    Lines.isBreak c = true

theorem Lines.IsLine.encloses {before line after : List Char}
    (isLine : IsLine before line after) (lower : byteLength before ≤ p)
    (upper : p ≤ byteLength before + byteLength line) :
    Encloses (before ++ line ++ after) p (byteLength before)
      (byteLength before + byteLength line) line := by
  refine ⟨lower, upper, slice?_append before line after, isLine.plain, ?_, ?_⟩
  · cases last : before.getLast? with
    | none => exact .inl (by rw [List.getLast?_eq_none_iff.1 last, byteLength])
    | some c =>
        obtain ⟨init, rfl⟩ := List.getLast?_eq_some_iff.1 last
        have breaks := isLine.begins c last
        have size := utf8Size_of_isBreak breaks
        have here := slice?_append init [c] (line ++ after)
        simp only [byteLength, size, Nat.add_zero] at here
        refine .inr ⟨byteLength init, c, by simp [byteLength, size], ?_, breaks⟩
        rw [← here, List.append_assoc]
  · cases first : after.head? with
    | none => exact .inl (by rw [List.head?_eq_none_iff.1 first]; simp)
    | some c =>
        obtain ⟨rest, rfl⟩ := List.head?_eq_some_iff.1 first
        have breaks := isLine.ends c first
        have here := slice?_append (before ++ line) [c] rest
        simp only [byteLength, utf8Size_of_isBreak breaks, Nat.add_zero, byteLength_append] at here
        refine .inr ⟨c, ?_, breaks⟩
        rw [← here]
        simp

namespace Encloses

variable {line line' : List Char} {start' stop' : Nat}

theorem start_le_start (first : Encloses text p start stop line)
    (second : Encloses text p start' stop' line') : start' ≤ start := by
  rcases second.begins with rfl | ⟨q, c, rfl, here, breaks⟩
  · exact Nat.zero_le start
  · by_contra further
    have behind := second.start_le
    have reach := first.le_stop
    have inside := mem_of_slice? first.cut here (by omega) (by omega)
    rw [first.plain c inside] at breaks
    cases breaks

theorem stop_le_stop (first : Encloses text p start stop line)
    (second : Encloses text p start' stop' line') : stop ≤ stop' := by
  rcases second.ends with rfl | ⟨c, here, breaks⟩
  · obtain ⟨before, after, rfl, -, rfl⟩ := slice?_eq_some_iff.1 first.cut
    simp
  · by_contra further
    have behind := first.start_le
    have reach := second.le_stop
    have inside := mem_of_slice? first.cut here (by omega) (by omega)
    rw [first.plain c inside] at breaks
    cases breaks

theorem unique (first : Encloses text p start stop line)
    (second : Encloses text p start' stop' line') : start' = start ∧ stop' = stop :=
  ⟨Nat.le_antisymm (first.start_le_start second) (second.start_le_start first),
    Nat.le_antisymm (second.stop_le_stop first) (first.stop_le_stop second)⟩

theorem of_between {between : List Char} (encloses : Encloses text q start stop line) (le : p ≤ q)
    (cut : slice? text p q = some between) (plain : ∀ c ∈ between, Lines.isBreak c = false) :
    Encloses text p start stop line := by
  have reach := encloses.le_stop
  refine { encloses with start_le := ?_, le_stop := by omega }
  rcases encloses.begins with rfl | ⟨r, c, rfl, here, breaks⟩
  · exact Nat.zero_le p
  · by_contra further
    have inside := mem_of_slice? cut here (by omega) encloses.start_le
    rw [plain c inside] at breaks
    cases breaks

/-- Two places have the same line around them if and only if no break is between them. -/
theorem same_iff (first : Encloses text p start stop line)
    (second : Encloses text q start' stop' line') (le : p ≤ q)
    (place : (Spot.at? text p).isSome) (place' : (Spot.at? text q).isSome) :
    (start = start' ∧ stop = stop') ↔
      ∃ between, slice? text p q = some between ∧ ∀ c ∈ between, Lines.isBreak c = false := by
  obtain ⟨front, back, whole, rfl⟩ := isSome_at?_iff.1 place
  obtain ⟨front', back', whole', rfl⟩ := isSome_at?_iff.1 place'
  obtain ⟨mid, rfl, rfl⟩ := exists_between (whole.symm.trans whole') le
  have cut : slice? text (byteLength front) (byteLength (front ++ mid)) = some mid := by
    rw [whole', byteLength_append]
    exact slice?_append front mid back'
  constructor
  · rintro ⟨rfl, rfl⟩
    refine ⟨mid, cut, ?_⟩
    intro c member
    -- The part between the places is in the line, which goes from before one to behind the other.
    obtain ⟨before, after, split, begins, ends⟩ := slice?_eq_some_iff.1 first.cut
    have lower : byteLength before ≤ byteLength front := by
      rw [begins]
      exact first.start_le
    obtain ⟨lead, rfl, inner⟩ := exists_between
      (show before ++ (line ++ after) = front ++ (mid ++ back') by
        rw [← List.append_assoc, ← split, whole]) lower
    have upper : byteLength (lead ++ mid) ≤ byteLength line := by
      have reach := second.le_stop
      simp only [byteLength_append] at reach ⊢
      omega
    rw [← List.append_assoc] at inner
    obtain ⟨trail, rfl, -⟩ := exists_between inner.symm upper
    exact first.plain c (by simp [member])
  · rintro ⟨between, cut', plain⟩
    obtain rfl := Option.some.inj (cut.symm.trans cut')
    obtain ⟨begins, ends⟩ := first.unique (second.of_between le cut plain)
    exact ⟨begins.symm, ends.symm⟩

end Encloses

/-- The search finds the ends of the line around an offset, and this encloses the place. -/
theorem exists_lineBounds (text : List Char) (offset : Nat) : ∃ start stop,
    lineBounds? text offset = some (start, stop) ∧
      Encloses text (placeAt text offset) start stop (lineAround text offset) := by
  obtain ⟨front, back, whole, place, around⟩ := exists_cut text offset
  obtain ⟨before, after, inFront, inBack, isLine⟩ := Lines.exists_line front back
  have size := congrArg byteLength inFront
  have total := congrArg byteLength whole
  rw [byteLength_append] at size total
  have left : slice? text 0 (placeAt text offset) = some front := by
    rw [← place, whole]
    simpa [byteLength] using slice?_append [] front back
  have right : slice? text (placeAt text offset) (byteLength text) = some back := by
    rw [total, ← place, whole]
    simpa [byteLength] using slice?_append front back []
  have begins := Lines.lastBreak?_elim front
  have ends := Lines.firstBreak?_elim back (placeAt text offset)
  rw [← place, ← total, place] at ends
  refine ⟨_, _, by rw [lineBounds?, left, right]; rfl, ?_⟩
  have encloses := isLine.encloses (p := placeAt text offset) (by omega)
    (by rw [byteLength_append]; omega)
  have joined : before ++ (Lines.tail front ++ Lines.head back) ++ after = text := by
    rw [whole]
    nth_rewrite 2 [inFront]
    nth_rewrite 2 [inBack]
    simp only [List.append_assoc]
  rw [joined, byteLength_append, ← around] at encloses
  convert encloses using 1
  · omega
  · omega

/-- Let a text and an offset be given, be it past the end or inside a character.  The search for the
line around the offset cuts the text at places only and gives the line.  This encloses the last place
that is not beyond the offset, and no other piece of the text does.  Another offset gives the same
ends of the line if and only if no character between the two places ends a line. -/
theorem lineAround_exact (text : List Char) (offset : Nat) :
    LastPlace text offset (placeAt text offset) ∧
    (∃ start stop, lineBounds? text offset = some (start, stop) ∧
      slice? text start stop = some (lineAround text offset) ∧
      Encloses text (placeAt text offset) start stop (lineAround text offset) ∧
      ∀ start' stop' line, Encloses text (placeAt text offset) start' stop' line →
        start' = start ∧ stop' = stop) ∧
    ∀ other, lineBounds? text offset = lineBounds? text other ↔
      ∃ between, slice? text (min (placeAt text offset) (placeAt text other))
        (max (placeAt text offset) (placeAt text other)) = some between ∧
          ∀ c ∈ between, Lines.isBreak c = false := by
  obtain ⟨start, stop, found, encloses⟩ := exists_lineBounds text offset
  have last := lastPlace_placeAt text offset
  refine ⟨last, ⟨start, stop, found, encloses.cut, encloses, ?_⟩, ?_⟩
  · intro start' stop' line other
    exact encloses.unique other
  · intro other
    obtain ⟨start', stop', found', encloses'⟩ := exists_lineBounds text other
    have last' := lastPlace_placeAt text other
    rw [found, found', Option.some.injEq, Prod.mk.injEq]
    -- The places are compared in their order in the text.
    rcases Nat.le_total (placeAt text offset) (placeAt text other) with le | le
    · rw [min_eq_left le, max_eq_right le]
      exact encloses.same_iff encloses' le last.place last'.place
    · rw [min_eq_right le, max_eq_left le, eq_comm (a := start), eq_comm (a := stop)]
      exact encloses'.same_iff encloses le last'.place last.place

/-- An offset between the two characters that end a line gives the empty line there, and one inside
a character the line that this character is in. -/
example : lineAround "a\r\né".toList 2 = [] ∧ lineAround "a\r\né".toList 4 = "é".toList := by decide

end ModalLexer
