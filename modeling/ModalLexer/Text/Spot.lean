/-! # Places in a text

A `Spot` is a place between two characters of a text: what lies before it, nearest first, what
lies after it, and its offset in bytes.  The text is `Spot.text`, so a spot never lies outside
its text nor inside a character; `Spot.at?` finds the spot of an offset exactly when the offset
has one (`at?_eq_some_iff`). -/
set_option autoImplicit false
namespace ModalLexer

/-- The number of bytes that a text takes in UTF-8. -/
def byteLength : List Char → Nat
  | [] => 0
  | c :: rest => c.utf8Size + byteLength rest

@[simp] theorem byteLength_append (xs ys : List Char) :
    byteLength (xs ++ ys) = byteLength xs + byteLength ys := by
  induction xs with
  | nil => simp [byteLength]
  | cons c rest ih => simp only [List.cons_append, byteLength, ih]; omega

@[simp] theorem byteLength_reverse (xs : List Char) : byteLength xs.reverse = byteLength xs := by
  induction xs with
  | nil => rfl
  | cons c rest ih => simp only [List.reverse_cons, byteLength_append, ih, byteLength]; omega

theorem byteLength_eq_zero_iff {xs : List Char} : byteLength xs = 0 ↔ xs = [] := by
  cases xs with
  | nil => simp [byteLength]
  | cons c rest =>
      have := c.utf8Size_pos
      simp only [byteLength, reduceCtorEq, iff_false]
      omega

/-- A place in a text: the characters before it, nearest first, those after it, and the number
of bytes before it. -/
structure Spot where
  past : List Char
  rest : List Char
  offset : Nat
  offset_eq : offset = byteLength past

namespace Spot

def mkAt (past rest : List Char) : Spot := ⟨past, rest, byteLength past, rfl⟩

def start (text : List Char) : Spot := ⟨[], text, 0, rfl⟩

def text (s : Spot) : List Char := s.past.reverse ++ s.rest

def before? (s : Spot) : Option Char := s.past.head?

def after? (s : Spot) : Option Char := s.rest.head?

def atEnd (s : Spot) : Bool := s.rest.isEmpty

def next? (s : Spot) : Option (Char × Spot) :=
  match s with
  | ⟨_, [], _, _⟩ => none
  | ⟨past, c :: rest, offset, offset_eq⟩ =>
      some (c, ⟨c :: past, rest, c.utf8Size + offset, by rw [byteLength, offset_eq]⟩)

def skip? (s : Spot) : List Char → Option Spot
  | [] => some s
  | c :: more =>
      match s.next? with
      | some (d, t) => if d = c then t.skip? more else none
      | none => none

/-- Cuts a text after a number of bytes, unless it is shorter or the cut is inside a character. -/
def cut? : List Char → Nat → Option (List Char × List Char)
  | rest, 0 => some ([], rest)
  | [], _ + 1 => none
  | c :: rest, n + 1 =>
      if n + 1 < c.utf8Size then none
      else (cut? rest (n + 1 - c.utf8Size)).map fun (front, back) => (c :: front, back)

/-- The place at an offset of a text, unless it is past the end or inside a character. -/
def at? (text : List Char) (offset : Nat) : Option Spot :=
  (cut? text offset).map fun (front, back) => mkAt front.reverse back

/-- The characters from one place up to a later one of the same text. -/
def upTo (s t : Spot) : List Char := s.rest.take (s.rest.length - t.rest.length)

/-- `text` leads from one place of a text to another. -/
def Leads (s : Spot) (text : List Char) (t : Spot) : Prop :=
  s.rest = text ++ t.rest ∧ t.past = text.reverse ++ s.past

theorem ext_of {s t : Spot} (past : s.past = t.past) (rest : s.rest = t.rest) : s = t := by
  obtain ⟨sPast, sRest, sOffset, sEq⟩ := s
  obtain ⟨tPast, tRest, tOffset, tEq⟩ := t
  obtain rfl : sPast = tPast := past
  obtain rfl : sRest = tRest := rest
  obtain rfl := sEq
  obtain rfl := tEq
  rfl

namespace Leads

theorem refl (s : Spot) : Leads s [] s := ⟨rfl, rfl⟩

theorem trans {s t u : Spot} {a b : List Char} (first : Leads s a t) (second : Leads t b u) :
    Leads s (a ++ b) u :=
  ⟨by rw [first.1, second.1, List.append_assoc],
    by rw [second.2, first.2, List.reverse_append, List.append_assoc]⟩

theorem text_eq {s t : Spot} {a : List Char} (leads : Leads s a t) : t.text = s.text := by
  simp [text, leads.1, leads.2]

theorem offset_eq {s t : Spot} {a : List Char} (leads : Leads s a t) :
    t.offset = s.offset + byteLength a := by
  rw [t.offset_eq, s.offset_eq, leads.2, byteLength_append, byteLength_reverse, Nat.add_comm]

/-- What leads from one place to another is the text between them. -/
theorem upTo_eq {s t : Spot} {a : List Char} (leads : Leads s a t) : s.upTo t = a := by
  simp [upTo, leads.1]

end Leads

theorem next?_eq_some_iff {s t : Spot} {c : Char} :
    s.next? = some (c, t) ↔ Leads s [c] t := by
  obtain ⟨past, rest, offset, offset_eq⟩ := s
  cases rest with
  | nil => simp [next?, Leads]
  | cons d rest =>
      constructor
      · intro found
        simp only [next?, Option.some.injEq, Prod.mk.injEq] at found
        obtain ⟨rfl, rfl⟩ := found
        exact ⟨rfl, rfl⟩
      · rintro ⟨restEq, pastEq⟩
        simp only [List.cons_append, List.nil_append, List.cons.injEq] at restEq
        obtain ⟨rfl, rfl⟩ := restEq
        exact congrArg some (Prod.ext rfl (ext_of (by simp [pastEq]) rfl))

theorem skip?_eq_some_iff (text : List Char) :
    ∀ {s t : Spot}, s.skip? text = some t ↔ Leads s text t := by
  induction text with
  | nil =>
      intro s t
      constructor
      · intro found
        obtain rfl := Option.some.inj found
        exact Leads.refl s
      · rintro ⟨restEq, pastEq⟩
        exact congrArg some (ext_of (by simpa using pastEq.symm) (by simpa using restEq))
  | cons c more ih =>
      intro s t
      constructor
      · intro found
        simp only [skip?] at found
        split at found
        · next d u stepped =>
            split at found
            · next same =>
                subst same
                exact (next?_eq_some_iff.1 stepped).trans (ih.1 found)
            · cases found
        · cases found
      · rintro ⟨restEq, pastEq⟩
        let u : Spot := mkAt (c :: s.past) (more ++ t.rest)
        have stepped : s.next? = some (c, u) :=
          next?_eq_some_iff.2 ⟨by simpa [u, mkAt] using restEq, rfl⟩
        have later : Leads u more t := ⟨rfl, by simpa [u, mkAt] using pastEq⟩
        simp [skip?, stepped, ih.2 later]

theorem cut?_eq_some_iff (text : List Char) :
    ∀ {n : Nat} {front back : List Char},
      cut? text n = some (front, back) ↔ text = front ++ back ∧ byteLength front = n := by
  induction text with
  | nil =>
      intro n front back
      cases n with
      | zero =>
          simp only [cut?, Option.some.injEq, Prod.mk.injEq, byteLength_eq_zero_iff]
          constructor
          · rintro ⟨rfl, rfl⟩
            exact ⟨rfl, rfl⟩
          · rintro ⟨whole, rfl⟩
            exact ⟨rfl, by simpa using whole⟩
      | succ n =>
          simp only [cut?, reduceCtorEq, false_iff]
          rintro ⟨whole, size⟩
          obtain ⟨rfl, rfl⟩ := List.append_eq_nil_iff.1 whole.symm
          simp [byteLength] at size
  | cons c rest ih =>
      intro n front back
      cases n with
      | zero =>
          simp only [cut?, Option.some.injEq, Prod.mk.injEq, byteLength_eq_zero_iff]
          constructor
          · rintro ⟨rfl, rfl⟩
            exact ⟨rfl, rfl⟩
          · rintro ⟨whole, rfl⟩
            exact ⟨rfl, by simpa using whole⟩
      | succ n =>
          have positive := c.utf8Size_pos
          constructor
          · intro found
            simp only [cut?] at found
            split at found
            · cases found
            · next fits =>
                obtain ⟨⟨front', back'⟩, inner, same⟩ := Option.map_eq_some_iff.1 found
                obtain ⟨rfl, rfl⟩ := Prod.mk.inj same
                obtain ⟨rfl, size⟩ := ih.1 inner
                exact ⟨rfl, by rw [byteLength, size]; omega⟩
          · rintro ⟨whole, size⟩
            cases front with
            | nil => simp [byteLength] at size
            | cons d front =>
                obtain ⟨rfl, rfl⟩ := List.cons.inj whole
                rw [byteLength] at size
                have fits : ¬ n + 1 < c.utf8Size := by omega
                have inner : cut? (front ++ back) (n + 1 - c.utf8Size) = some (front, back) :=
                  ih.2 ⟨rfl, by omega⟩
                simp [cut?, fits, inner]

theorem at?_eq_some_iff {text : List Char} {offset : Nat} {s : Spot} :
    at? text offset = some s ↔ s.text = text ∧ s.offset = offset := by
  simp only [at?, Option.map_eq_some_iff]
  constructor
  · rintro ⟨⟨front, back⟩, found, rfl⟩
    obtain ⟨rfl, size⟩ := (cut?_eq_some_iff text).1 found
    exact ⟨by simp [Spot.text, mkAt], by simp [mkAt, size]⟩
  · rintro ⟨rfl, rfl⟩
    refine ⟨(s.past.reverse, s.rest), (cut?_eq_some_iff _).2 ⟨rfl, ?_⟩, ?_⟩
    · rw [byteLength_reverse, s.offset_eq]
    · exact ext_of (by simp [mkAt]) rfl

end Spot

end ModalLexer
