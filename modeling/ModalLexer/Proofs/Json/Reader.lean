import Mathlib.Data.List.TakeWhile
import ModalLexer.Proofs.Json.Grammar

/-! # The reader of JSON follows the grammar

What is read is written as the grammar says (`Part.IsRead.spells`).  What is written as the grammar
says is read, if what stands behind it cannot be taken for more of a number (`Spells.isRead`); two
steps for each character are enough.  So a text is read as a value exactly if it writes that value
(`read?_eq_some_iff`). -/
set_option autoImplicit false
namespace ModalLexer.Json

variable {cs front left digits whole fraction exponent number : List Char}

/-- A text does not begin with a character of some kind. -/
def Stops (p : Char → Bool) (cs : List Char) : Prop := ∀ c ∈ cs.head?, p c = false

theorem takeWhile_append_of_stops {p : Char → Bool} (all : ∀ c ∈ front, p c = true)
    (stops : Stops p left) :
    (front ++ left).takeWhile p = front ∧ (front ++ left).dropWhile p = left := by
  rw [List.takeWhile_append_of_pos all, List.dropWhile_append_of_pos all]
  cases left with
  | nil => exact ⟨List.append_nil front, rfl⟩
  | cons c left =>
      have no : ¬ p c = true := by simp [stops c rfl]
      rw [List.takeWhile_cons_of_neg no, List.dropWhile_cons_of_neg no]
      exact ⟨List.append_nil front, rfl⟩

theorem blanks_skipBlanks (cs : List Char) : Blanks cs (skipBlanks cs) :=
  ⟨cs.takeWhile isBlank, fun _ member => List.mem_takeWhile_imp member,
    List.takeWhile_append_dropWhile.symm⟩

theorem Blanks.skipBlanks_eq (blanks : Blanks cs left) (stops : Stops isBlank left) :
    skipBlanks cs = left := by
  obtain ⟨before, blank, rfl⟩ := blanks
  exact (takeWhile_append_of_stops blank stops).2

/-! ## Numbers -/

theorem Digits.exists_cons (run : Digits digits) :
    ∃ d rest, digits = d :: rest ∧ d.isDigit = true := by
  obtain ⟨d, rest, rfl⟩ := List.exists_cons_of_ne_nil run.1
  exact ⟨d, rest, rfl, run.2 d List.mem_cons_self⟩

theorem Digits.append_ne (run : Digits digits) {c : Char} (other : c.isDigit = false)
    (rest : List Char) : digits ++ left ≠ c :: rest := by
  obtain ⟨d, more, rfl, digit⟩ := run.exists_cons
  intro same
  rw [← (List.cons.inj same).1, digit] at other
  cases other

theorem readDigits?_sound (read : readDigits? cs = some (digits, left)) :
    Digits digits ∧ cs = digits ++ left := by
  simp only [readDigits?, Option.ite_none_left_eq_some, Option.some.injEq, Prod.mk.injEq,
    List.isEmpty_iff] at read
  obtain ⟨some_digit, rfl, rfl⟩ := read
  exact ⟨⟨some_digit, fun _ member => List.mem_takeWhile_imp member⟩,
    List.takeWhile_append_dropWhile.symm⟩

theorem Digits.readDigits?_eq (run : Digits digits) (stops : Stops Char.isDigit left) :
    readDigits? (digits ++ left) = some (digits, left) := by
  obtain ⟨taken, dropped⟩ := takeWhile_append_of_stops run.2 stops
  have some_digit : ¬ digits.isEmpty = true := by simpa using run.1
  rw [readDigits?, taken, dropped, if_neg some_digit]

theorem readWhole?_sound (read : readWhole? cs = some (whole, left)) :
    IsWhole whole ∧ cs = whole ++ left := by
  unfold readWhole? at read
  split at read
  · obtain ⟨rfl, rfl⟩ := Prod.mk.inj (Option.some.inj read)
    exact ⟨.zero, rfl⟩
  · next no_zero =>
      obtain ⟨run, rfl⟩ := readDigits?_sound read
      refine ⟨.digits run ?_, rfl⟩
      intro zero
      obtain ⟨rest, rfl⟩ := List.head?_eq_some_iff.1 zero
      exact no_zero _ rfl

theorem IsWhole.readWhole?_eq (isWhole : IsWhole whole) (stops : Stops Char.isDigit left) :
    readWhole? (whole ++ left) = some (whole, left) := by
  cases isWhole with
  | zero => rfl
  | digits run first =>
      cases whole with
      | nil => exact absurd rfl run.1
      | cons d rest =>
          have no_zero : d ≠ '0' := fun zero => first (congrArg some zero)
          rw [readWhole?.eq_2]
          · exact run.readDigits?_eq stops
          · intro more zero
            exact no_zero (List.cons.inj zero).1

theorem readFraction?_sound (read : readFraction? cs = some (fraction, left)) :
    IsFraction fraction ∧ cs = fraction ++ left := by
  unfold readFraction? at read
  split at read
  · obtain ⟨⟨digits, behind⟩, run, same⟩ := Option.map_eq_some_iff.1 read
    obtain ⟨rfl, rfl⟩ := Prod.mk.inj same
    obtain ⟨isRun, rfl⟩ := readDigits?_sound run
    exact ⟨.digits isRun, rfl⟩
  · obtain ⟨rfl, rfl⟩ := Prod.mk.inj (Option.some.inj read)
    exact ⟨.none, rfl⟩

theorem IsFraction.readFraction?_eq (isFraction : IsFraction fraction)
    (stops : Stops Char.isDigit left) (no_point : left.head? ≠ some '.') :
    readFraction? (fraction ++ left) = some (fraction, left) := by
  cases isFraction with
  | none =>
      rw [readFraction?.eq_2]
      · rfl
      · rintro rest rfl
        exact no_point rfl
  | digits run => exact Option.map_eq_some_iff.2 ⟨_, run.readDigits?_eq stops, rfl⟩

theorem readExponent?_sound (read : readExponent? cs = some (exponent, left)) :
    IsExponent exponent ∧ cs = exponent ++ left := by
  unfold readExponent? at read
  split at read
  · split at read
    · next letter =>
        split at read
        all_goals
          obtain ⟨⟨digits, behind⟩, run, same⟩ := Option.map_eq_some_iff.1 read
          obtain ⟨rfl, rfl⟩ := Prod.mk.inj same
          obtain ⟨isRun, rfl⟩ := readDigits?_sound run
        · exact ⟨.digits letter (.inr (.inl rfl)) isRun, rfl⟩
        · exact ⟨.digits letter (.inr (.inr rfl)) isRun, rfl⟩
        · exact ⟨.digits letter (.inl rfl) isRun, rfl⟩
    · obtain ⟨rfl, rfl⟩ := Prod.mk.inj (Option.some.inj read)
      exact ⟨.none, rfl⟩
  · obtain ⟨rfl, rfl⟩ := Prod.mk.inj (Option.some.inj read)
    exact ⟨.none, rfl⟩

theorem IsExponent.readExponent?_eq (isExponent : IsExponent exponent)
    (stops : Stops Char.isDigit left) (no_letter : left.head? ≠ some 'e' ∧ left.head? ≠ some 'E') :
    readExponent? (exponent ++ left) = some (exponent, left) := by
  cases isExponent with
  | none =>
      cases left with
      | nil => rfl
      | cons c left =>
          have other : ¬ (c = 'e' ∨ c = 'E') := by
            rintro (rfl | rfl)
            · exact no_letter.1 rfl
            · exact no_letter.2 rfl
          simp only [List.nil_append, readExponent?, if_neg other]
  | @digits e sign digits letter signed run =>
      have behind := run.readDigits?_eq stops
      rcases signed with rfl | rfl | rfl
      · simp only [List.cons_append, List.nil_append, readExponent?, if_pos letter]
        split
        · next signed => exact absurd signed (run.append_ne rfl _)
        · next signed => exact absurd signed (run.append_ne rfl _)
        · rw [behind]
          rfl
      · simp only [List.cons_append, List.nil_append, readExponent?, if_pos letter, behind]
        rfl
      · simp only [List.cons_append, List.nil_append, readExponent?, if_pos letter, behind]
        rfl

def goesOn (c : Char) : Bool := c.isDigit || c = '.' || c = 'e' || c = 'E'

theorem Stops.of_goesOn (stops : Stops goesOn left) : Stops Char.isDigit left ∧
    left.head? ≠ some '.' ∧ left.head? ≠ some 'e' ∧ left.head? ≠ some 'E' := by
  have other {c : Char} (head : left.head? = some c) : goesOn c = false := stops c head
  refine ⟨?_, ?_, ?_, ?_⟩
  · intro c head
    have none := other head
    simp only [goesOn, Bool.or_eq_false_iff] at none
    exact none.1.1.1
  all_goals
    intro head
    exact Bool.noConfusion (other head)

theorem IsExponent.stops (isExponent : IsExponent exponent) (stops : Stops goesOn left) :
    Stops Char.isDigit (exponent ++ left) ∧ (exponent ++ left).head? ≠ some '.' := by
  cases isExponent with
  | none => exact ⟨stops.of_goesOn.1, stops.of_goesOn.2.1⟩
  | digits letter signed run =>
      rcases letter with rfl | rfl
      all_goals
        refine ⟨?_, by simp⟩
        intro c head
        obtain rfl := Option.some.inj head
        rfl

theorem IsFraction.stops (isFraction : IsFraction fraction) (stops : Stops Char.isDigit left) :
    Stops Char.isDigit (fraction ++ left) := by
  cases isFraction with
  | none => exact stops
  | digits run =>
      intro c head
      obtain rfl := Option.some.inj head
      rfl

theorem IsWhole.append_ne (isWhole : IsWhole whole) (rest : List Char) :
    whole ++ left ≠ '-' :: rest := by
  cases isWhole with
  | zero => exact fun same => absurd (List.cons.inj same).1 (by decide)
  | digits run first => exact run.append_ne rfl rest

theorem readNumber?_sound (read : readNumber? cs = some (number, left)) :
    IsNumber number ∧ cs = number ++ left := by
  unfold readNumber? at read
  split at read
  next sign unsigned split_sign =>
    have signed : (sign = [] ∨ sign = ['-']) ∧ cs = sign ++ unsigned := by
      split at split_sign
      · obtain ⟨rfl, rfl⟩ := Prod.mk.inj split_sign
        exact ⟨.inr rfl, rfl⟩
      · obtain ⟨rfl, rfl⟩ := Prod.mk.inj split_sign
        exact ⟨.inl rfl, rfl⟩
    obtain ⟨⟨whole, behindWhole⟩, readWhole, read⟩ := Option.bind_eq_some_iff.1 read
    obtain ⟨⟨fraction, behindFraction⟩, readFraction, read⟩ := Option.bind_eq_some_iff.1 read
    obtain ⟨⟨exponent, behind⟩, readExponent, read⟩ := Option.bind_eq_some_iff.1 read
    obtain ⟨rfl, rfl⟩ := Prod.mk.inj (Option.some.inj read)
    obtain ⟨isWhole, rfl⟩ := readWhole?_sound readWhole
    obtain ⟨isFraction, rfl⟩ := readFraction?_sound readFraction
    obtain ⟨isExponent, rfl⟩ := readExponent?_sound readExponent
    refine ⟨.parts signed.1 isWhole isFraction isExponent, ?_⟩
    rw [signed.2]
    simp only [List.append_assoc]

theorem IsNumber.readNumber?_eq (isNumber : IsNumber number) (stops : Stops goesOn left) :
    readNumber? (number ++ left) = some (number, left) := by
  cases isNumber with
  | @parts sign whole fraction exponent signed isWhole isFraction isExponent =>
      obtain ⟨behindFraction, no_point⟩ := isExponent.stops stops
      have wholeRead := isWhole.readWhole?_eq (isFraction.stops behindFraction)
      have fractionRead := isFraction.readFraction?_eq behindFraction no_point
      have exponentRead := isExponent.readExponent?_eq stops.of_goesOn.1 stops.of_goesOn.2.2
      unfold readNumber?
      split
      next front unsigned split_sign =>
        have parts : front = sign ∧ unsigned = whole ++ (fraction ++ (exponent ++ left)) := by
          simp only [List.append_assoc] at split_sign
          rcases signed with rfl | rfl
          · split at split_sign
            · next same => exact absurd same (isWhole.append_ne _)
            · obtain ⟨rfl, rfl⟩ := Prod.mk.inj split_sign
              exact ⟨rfl, rfl⟩
          · obtain ⟨rfl, rfl⟩ := Prod.mk.inj split_sign
            exact ⟨rfl, rfl⟩
        obtain ⟨rfl, rfl⟩ := parts
        refine Option.bind_eq_some_iff.2 ⟨_, wholeRead, ?_⟩
        refine Option.bind_eq_some_iff.2 ⟨_, fractionRead, ?_⟩
        exact Option.bind_eq_some_iff.2 ⟨_, exponentRead, rfl⟩

/-! ## Strings -/

variable {units : List StringUnit}

theorem mem_escapes_iff {e c : Char} : (e, c) ∈ escapes ↔ escaped? e = some c := by
  constructor
  · intro listed
    have all : ∀ pair ∈ escapes, escaped? pair.1 = some pair.2 := by decide
    exact all _ listed
  · intro stands
    unfold escaped? at stands
    split at stands
    case h_9 => cases stands
    all_goals
      obtain rfl := Option.some.inj stands
      decide

theorem readCode?_sound {n : Nat} (read : readCode? cs = some (n, left)) :
    ∃ digits, IsCode digits n ∧ cs = digits ++ left := by
  unfold readCode? at read
  split at read
  · obtain ⟨w, first, read⟩ := Option.bind_eq_some_iff.1 read
    obtain ⟨x, second, read⟩ := Option.bind_eq_some_iff.1 read
    obtain ⟨y, third, read⟩ := Option.bind_eq_some_iff.1 read
    obtain ⟨z, fourth, read⟩ := Option.bind_eq_some_iff.1 read
    obtain ⟨rfl, rfl⟩ := Prod.mk.inj (Option.some.inj read)
    exact ⟨_, .digits first second third fourth, rfl⟩
  · cases read

theorem IsCode.readCode?_eq {n : Nat} (isCode : IsCode digits n) (left : List Char) :
    readCode? (digits ++ left) = some (n, left) := by
  cases isCode with
  | digits first second third fourth =>
      refine Option.bind_eq_some_iff.2 ⟨_, first, ?_⟩
      refine Option.bind_eq_some_iff.2 ⟨_, second, ?_⟩
      refine Option.bind_eq_some_iff.2 ⟨_, third, ?_⟩
      exact Option.bind_eq_some_iff.2 ⟨_, fourth, rfl⟩

theorem readUnits?_sound {fuel : Nat} (read : readUnits? fuel cs = some (units, left)) :
    SpellsUnits units cs left := by
  induction fuel generalizing cs units with
  | zero => cases read
  | succ fuel ih =>
      unfold readUnits? at read
      split at read
      · cases read
      · obtain ⟨rfl, rfl⟩ := Prod.mk.inj (Option.some.inj read)
        exact .close _
      · obtain ⟨⟨n, behind⟩, code, read⟩ := Option.bind_eq_some_iff.1 read
        obtain ⟨⟨more, left'⟩, later, read⟩ := Option.bind_eq_some_iff.1 read
        obtain ⟨rfl, rfl⟩ := Prod.mk.inj (Option.some.inj read)
        obtain ⟨digits, isCode, rfl⟩ := readCode?_sound code
        exact .code isCode (ih later)
      · obtain ⟨c, stands, read⟩ := Option.bind_eq_some_iff.1 read
        obtain ⟨⟨more, left'⟩, later, read⟩ := Option.bind_eq_some_iff.1 read
        obtain ⟨rfl, rfl⟩ := Prod.mk.inj (Option.some.inj read)
        exact .escape (mem_escapes_iff.2 stands) (ih later)
      · next no_quote _ _ =>
          split at read
          · cases read
          · next allowed =>
              obtain ⟨⟨more, left'⟩, later, same⟩ := Option.map_eq_some_iff.1 read
              obtain ⟨rfl, rfl⟩ := Prod.mk.inj same
              rw [not_or, Nat.not_lt] at allowed
              exact .plain allowed.1 no_quote allowed.2 (ih later)

theorem readUnits?_plain {fuel : Nat} {c : Char} (printable : 0x20 ≤ c.toNat) (no_quote : c ≠ '"')
    (no_backslash : c ≠ '\\') (read : readUnits? fuel cs = some (units, left)) :
    readUnits? (fuel + 1) (c :: cs) = some (.char c :: units, left) := by
  have allowed : ¬ (c.toNat < 0x20 ∨ c = '\\') :=
    not_or.2 ⟨Nat.not_lt.2 printable, no_backslash⟩
  unfold readUnits?
  split
  · next same => cases same
  · next same => exact absurd (List.cons.inj same).1 no_quote
  · next same => exact absurd (List.cons.inj same).1 no_backslash
  · next same => exact absurd (List.cons.inj same).1 no_backslash
  · next same =>
      obtain ⟨rfl, rfl⟩ := List.cons.inj same
      rw [if_neg allowed, read]
      rfl

theorem readUnits?_escape {fuel : Nat} {e c : Char} (stands : escaped? e = some c)
    (read : readUnits? fuel cs = some (units, left)) :
    readUnits? (fuel + 1) ('\\' :: e :: cs) = some (.char c :: units, left) := by
  unfold readUnits?
  split
  · next same => cases same
  · next same => cases same
  · next same =>
      obtain rfl := (List.cons.inj (List.cons.inj same).2).1
      cases stands
  · next same =>
      obtain ⟨rfl, rfl⟩ := List.cons.inj (List.cons.inj same).2
      exact Option.bind_eq_some_iff.2 ⟨c, stands, Option.bind_eq_some_iff.2 ⟨_, read, rfl⟩⟩
  · next no_escape same =>
      obtain ⟨rfl, rfl⟩ := List.cons.inj same
      exact absurd rfl (no_escape e cs rfl)

/-- One step for each character is enough. -/
theorem SpellsUnits.readUnits?_eq (spelled : SpellsUnits units cs left) {fuel : Nat}
    (enough : cs.length ≤ fuel) : readUnits? fuel cs = some (units, left) := by
  induction spelled generalizing fuel with
  | close left =>
      cases fuel with
      | zero => cases enough
      | succ fuel => rfl
  | @plain c units cs left printable no_quote no_backslash later ih =>
      cases fuel with
      | zero => cases enough
      | succ fuel =>
          exact readUnits?_plain printable no_quote no_backslash (ih (Nat.le_of_succ_le_succ enough))
  | @escape e c units cs left listed later ih =>
      cases fuel with
      | zero => cases enough
      | succ fuel =>
          have shorter : cs.length ≤ fuel := Nat.le_of_succ_le (Nat.le_of_succ_le_succ enough)
          exact readUnits?_escape (mem_escapes_iff.1 listed) (ih shorter)
  | @code digits n units cs left isCode later ih =>
      cases fuel with
      | zero => cases enough
      | succ fuel =>
          have shorter : cs.length ≤ fuel := by
            simp only [List.length_append, List.length_cons] at enough
            omega
          exact Option.bind_eq_some_iff.2
            ⟨_, isCode.readCode?_eq cs, Option.bind_eq_some_iff.2 ⟨_, ih shorter, rfl⟩⟩

theorem readString?_sound (read : readString? cs = some (units, left)) :
    SpellsUnits units cs left := readUnits?_sound read

theorem SpellsUnits.readString?_eq (spelled : SpellsUnits units cs left) :
    readString? cs = some (units, left) := spelled.readUnits?_eq (Nat.le_succ _)

/-! ## Values -/

/-- A part is read at the head of a text, in so many steps, and this is left behind it. -/
def Part.IsRead (fuel : Nat) (cs left : List Char) : Part → Prop
  | .value j => readValue? fuel cs = some (j, left)
  | .items all => readItems? fuel cs = some (all, left)
  | .fields all => readFields? fuel cs = some (all, left)

section Sound

variable {fuel : Nat}
  (ih : ∀ {part : Part} {cs left : List Char}, part.IsRead fuel cs left → Spells part cs left)

include ih

theorem spells_of_readValue? {j : Json} (read : readValue? (fuel + 1) cs = some (j, left)) :
    Spells (.value j) cs left := by
  unfold readValue? at read
  split at read
  · obtain ⟨rfl, rfl⟩ := Prod.mk.inj (Option.some.inj read)
    exact .null _
  · obtain ⟨rfl, rfl⟩ := Prod.mk.inj (Option.some.inj read)
    exact .bool true _
  · obtain ⟨rfl, rfl⟩ := Prod.mk.inj (Option.some.inj read)
    exact .bool false _
  · obtain ⟨⟨units, behind⟩, string, same⟩ := Option.map_eq_some_iff.1 read
    obtain ⟨rfl, rfl⟩ := Prod.mk.inj same
    exact .string (readString?_sound string)
  · next rest =>
      have blanks := blanks_skipBlanks rest
      split at read
      · next closed =>
          obtain ⟨rfl, rfl⟩ := Prod.mk.inj (Option.some.inj read)
          exact .emptyArray (closed ▸ blanks)
      · obtain ⟨⟨items, behind⟩, inside, same⟩ := Option.map_eq_some_iff.1 read
        obtain ⟨rfl, rfl⟩ := Prod.mk.inj same
        exact .array blanks (ih inside)
  · next rest =>
      have blanks := blanks_skipBlanks rest
      split at read
      · next closed =>
          obtain ⟨rfl, rfl⟩ := Prod.mk.inj (Option.some.inj read)
          exact .emptyObject (closed ▸ blanks)
      · obtain ⟨⟨fields, behind⟩, inside, same⟩ := Option.map_eq_some_iff.1 read
        obtain ⟨rfl, rfl⟩ := Prod.mk.inj same
        exact .object blanks (ih inside)
  · obtain ⟨⟨number, behind⟩, digits, same⟩ := Option.map_eq_some_iff.1 read
    obtain ⟨rfl, rfl⟩ := Prod.mk.inj same
    obtain ⟨isNumber, rfl⟩ := readNumber?_sound digits
    exact .number isNumber _

theorem spells_of_readItems? {items : List Json}
    (read : readItems? (fuel + 1) cs = some (items, left)) : Spells (.items items) cs left := by
  obtain ⟨⟨item, behind⟩, value, read⟩ := Option.bind_eq_some_iff.1 read
  have spelled : Spells (.value item) cs behind := ih value
  have blanks := blanks_skipBlanks behind
  simp only at read
  split at read
  · next closed =>
      obtain ⟨rfl, rfl⟩ := Prod.mk.inj (Option.some.inj read)
      exact .lastItem spelled (closed ▸ blanks)
  · next rest comma =>
      obtain ⟨⟨more, left'⟩, later, read⟩ := Option.bind_eq_some_iff.1 read
      obtain ⟨rfl, rfl⟩ := Prod.mk.inj (Option.some.inj read)
      have spelledLater : Spells (.items more) (skipBlanks rest) left' := ih later
      exact .item spelled ⟨rest, comma ▸ blanks, blanks_skipBlanks rest⟩ spelledLater
  · cases read

theorem spells_of_readFields? {fields : List (List StringUnit × Json)}
    (read : readFields? (fuel + 1) cs = some (fields, left)) : Spells (.fields fields) cs left := by
  unfold readFields? at read
  split at read
  · obtain ⟨⟨name, behindName⟩, named, read⟩ := Option.bind_eq_some_iff.1 read
    simp only at read
    split at read
    · next rest colon =>
        obtain ⟨⟨value, behind⟩, valueRead, read⟩ := Option.bind_eq_some_iff.1 read
        have spelledName := readString?_sound named
        have separated : Separator ':' behindName (skipBlanks rest) :=
          ⟨rest, colon ▸ blanks_skipBlanks behindName, blanks_skipBlanks rest⟩
        have spelled : Spells (.value value) (skipBlanks rest) behind := ih valueRead
        have blanks := blanks_skipBlanks behind
        simp only at read
        split at read
        · next closed =>
            obtain ⟨rfl, rfl⟩ := Prod.mk.inj (Option.some.inj read)
            exact .lastField spelledName separated spelled (closed ▸ blanks)
        · next more comma =>
            obtain ⟨⟨others, left'⟩, later, read⟩ := Option.bind_eq_some_iff.1 read
            obtain ⟨rfl, rfl⟩ := Prod.mk.inj (Option.some.inj read)
            have spelledLater : Spells (.fields others) (skipBlanks more) left' := ih later
            exact .field spelledName separated spelled
              ⟨more, comma ▸ blanks, blanks_skipBlanks more⟩ spelledLater
        · cases read
    · cases read
  · cases read

end Sound

/-- What is read is written as the grammar says. -/
theorem Part.IsRead.spells {fuel : Nat} {part : Part} (read : part.IsRead fuel cs left) :
    Spells part cs left := by
  induction fuel generalizing part cs left with
  | zero => cases part <;> cases read
  | succ fuel ih =>
      cases part with
      | value j => exact spells_of_readValue? ih read
      | items items => exact spells_of_readItems? ih read
      | fields fields => exact spells_of_readFields? ih read

/-! ## Lengths and first characters -/

theorem Blanks.length_le (blanks : Blanks cs left) : left.length ≤ cs.length := by
  obtain ⟨before, -, rfl⟩ := blanks
  simp

theorem Separator.length_lt {c : Char} (separated : Separator c cs left) :
    left.length < cs.length := by
  obtain ⟨rest, blanks, moreBlanks⟩ := separated
  have here := blanks.length_le
  have there := moreBlanks.length_le
  rw [List.length_cons] at here
  omega

theorem SpellsUnits.length_lt (spelled : SpellsUnits units cs left) : left.length < cs.length := by
  induction spelled with
  | close left => exact Nat.lt_succ_self _
  | plain printable no_quote no_backslash later ih => exact Nat.lt_succ_of_lt ih
  | escape listed later ih => exact Nat.lt_succ_of_lt (Nat.lt_succ_of_lt ih)
  | code isCode later ih =>
      simp only [List.length_append, List.length_cons]
      omega

theorem IsNumber.exists_cons (isNumber : IsNumber number) :
    ∃ c rest, number = c :: rest ∧ (c.isDigit = true ∨ c = '-') := by
  cases isNumber with
  | parts signed isWhole isFraction isExponent =>
      rcases signed with rfl | rfl
      · cases isWhole with
        | zero => exact ⟨_, _, rfl, .inl rfl⟩
        | digits run first =>
            obtain ⟨d, rest, rfl, digit⟩ := run.exists_cons
            exact ⟨d, _, rfl, .inl digit⟩
      · exact ⟨_, _, rfl, .inr rfl⟩

theorem length_lt_append (nonempty : front ≠ []) : left.length < (front ++ left).length := by
  rw [List.length_append]
  exact Nat.lt_add_of_pos_left (List.length_pos_iff.2 nonempty)

theorem Spells.length_lt {part : Part} (spelled : Spells part cs left) :
    left.length < cs.length := by
  induction spelled with
  | null left => exact length_lt_append (by decide)
  | bool b left => exact length_lt_append (by cases b <;> decide)
  | number isNumber left =>
      obtain ⟨c, rest, rfl, -⟩ := isNumber.exists_cons
      exact length_lt_append (List.cons_ne_nil c rest)
  | string spelled => exact Nat.lt_succ_of_lt spelled.length_lt
  | emptyArray blanks => exact Nat.lt_succ_of_lt blanks.length_le
  | array blanks spelled ih => exact Nat.lt_succ_of_lt (Nat.lt_of_lt_of_le ih blanks.length_le)
  | emptyObject blanks => exact Nat.lt_succ_of_lt blanks.length_le
  | object blanks spelled ih => exact Nat.lt_succ_of_lt (Nat.lt_of_lt_of_le ih blanks.length_le)
  | lastItem spelled closed ih => exact Nat.lt_trans closed.length_le ih
  | item spelled comma later ih laterIh =>
      exact Nat.lt_trans laterIh (Nat.lt_trans comma.length_lt ih)
  | lastField named colon spelled closed ih =>
      have shorter := Nat.lt_trans colon.length_lt named.length_lt
      exact Nat.lt_succ_of_lt (Nat.lt_trans closed.length_le (Nat.lt_trans ih shorter))
  | field named colon spelled comma later ih laterIh =>
      have shorter := Nat.lt_trans colon.length_lt named.length_lt
      have behind := Nat.lt_trans laterIh (Nat.lt_trans comma.length_lt ih)
      exact Nat.lt_succ_of_lt (Nat.lt_trans behind shorter)

def opens (c : Char) : Bool := !isBlank c && c != ']' && c != '\x7d'

theorem opens_of_number {c : Char} (begins : c.isDigit = true ∨ c = '-') : opens c = true := by
  rcases begins with digit | rfl
  · have other {d : Char} (no_digit : d.isDigit = false) : c ≠ d := by
      rintro rfl
      rw [no_digit] at digit
      cases digit
    simp only [opens, isBlank, Bool.and_eq_true, Bool.not_eq_true', Bool.or_eq_false_iff,
      decide_eq_false_iff_not, bne_iff_ne]
    exact ⟨⟨⟨⟨⟨other rfl, other rfl⟩, other rfl⟩, other rfl⟩, other rfl⟩, other rfl⟩
  · rfl

theorem Spells.exists_opens {part : Part} (spelled : Spells part cs left) :
    ∃ c rest, cs = c :: rest ∧ opens c = true := by
  induction spelled with
  | null left => exact ⟨_, _, rfl, rfl⟩
  | bool b left => cases b <;> exact ⟨_, _, rfl, rfl⟩
  | number isNumber left =>
      obtain ⟨c, rest, rfl, begins⟩ := isNumber.exists_cons
      exact ⟨c, _, rfl, opens_of_number begins⟩
  | lastItem spelled closed ih => exact ih
  | item spelled comma later ih laterIh => exact ih
  | _ => exact ⟨_, _, rfl, rfl⟩

/-! ## Completeness -/

theorem stops_cons {p : Char → Bool} {c : Char} (other : p c = false) (rest : List Char) :
    Stops p (c :: rest) := by
  intro d head
  obtain rfl := Option.some.inj head
  exact other

theorem Blanks.stops_goesOn (blanks : Blanks cs left) (stops : Stops goesOn left) :
    Stops goesOn cs := by
  obtain ⟨before, blank, rfl⟩ := blanks
  cases before with
  | nil => exact stops
  | cons c before =>
      have isBlank := blank c List.mem_cons_self
      apply stops_cons
      simp only [Json.isBlank, Bool.or_eq_true, decide_eq_true_eq] at isBlank
      rcases isBlank with ((rfl | rfl) | rfl) | rfl <;> rfl

theorem Spells.skipBlanks_eq {part : Part} {first : List Char} (spelled : Spells part first left)
    (blanks : Blanks cs first) : skipBlanks cs = first := by
  apply blanks.skipBlanks_eq
  obtain ⟨c, rest, rfl, opening⟩ := spelled.exists_opens
  apply stops_cons
  simp only [opens, Bool.and_eq_true, Bool.not_eq_true'] at opening
  exact opening.1.1

/-- What has to stand behind a part so that it is not taken for more of it. -/
def Part.Follows (left : List Char) : Part → Prop
  | .value _ => Stops goesOn left
  | .items _ => True
  | .fields _ => True

theorem IsNumber.readValue?_eq (isNumber : IsNumber number) (stops : Stops goesOn left) (fuel : Nat) :
    readValue? (fuel + 1) (number ++ left) = some (.number number, left) := by
  have digits := isNumber.readNumber?_eq stops
  obtain ⟨c, rest, rfl, begins⟩ := isNumber.exists_cons
  unfold readValue?
  split
  case h_7 => exact Option.map_eq_some_iff.2 ⟨_, digits, rfl⟩
  all_goals
    next same =>
      obtain rfl := (List.cons.inj same).1
      exact absurd begins (by decide)

theorem opens_ne {c : Char} (opening : opens c = true) : c ≠ ']' ∧ c ≠ '\x7d' := by
  simp only [opens, Bool.and_eq_true, bne_iff_ne] at opening
  exact ⟨opening.1.2, opening.2⟩

section Complete

variable {fuel : Nat}
  (ih : ∀ {part : Part} {cs left : List Char}, Spells part cs left → part.Follows left →
    2 * cs.length ≤ 2 * left.length + fuel → part.IsRead fuel cs left)

include ih

theorem readValue?_of_spells {j : Json} (spelled : Spells (.value j) cs left)
    (follows : Stops goesOn left) (enough : 2 * cs.length ≤ 2 * left.length + (fuel + 1)) :
    readValue? (fuel + 1) cs = some (j, left) := by
  cases spelled with
  | null left => rfl
  | bool b left => cases b <;> rfl
  | number isNumber left => exact isNumber.readValue?_eq follows fuel
  | string spelled => exact Option.map_eq_some_iff.2 ⟨_, spelled.readString?_eq, rfl⟩
  | emptyArray blanks =>
      have skipped := blanks.skipBlanks_eq (stops_cons rfl _)
      simp only [readValue?, skipped]
  | @array items cs first left blanks inside =>
      have read : readItems? fuel first = some (items, left) := by
        apply ih inside trivial
        have := blanks.length_le
        rw [List.length_cons] at enough
        omega
      have skipped := inside.skipBlanks_eq blanks
      obtain ⟨c, rest, rfl, opening⟩ := inside.exists_opens
      unfold readValue?
      simp only [skipped]
      split
      · next same => exact absurd (List.cons.inj same).1 (opens_ne opening).1
      · exact Option.map_eq_some_iff.2 ⟨_, read, rfl⟩
  | emptyObject blanks =>
      have skipped := blanks.skipBlanks_eq (stops_cons rfl _)
      simp only [readValue?, skipped]
  | @object fields cs first left blanks inside =>
      have read : readFields? fuel first = some (fields, left) := by
        apply ih inside trivial
        have := blanks.length_le
        rw [List.length_cons] at enough
        omega
      have skipped := inside.skipBlanks_eq blanks
      obtain ⟨c, rest, rfl, opening⟩ := inside.exists_opens
      unfold readValue?
      simp only [skipped]
      split
      · next same => exact absurd (List.cons.inj same).1 (opens_ne opening).2
      · exact Option.map_eq_some_iff.2 ⟨_, read, rfl⟩

theorem readItems?_of_spells {items : List Json} (spelled : Spells (.items items) cs left)
    (enough : 2 * cs.length ≤ 2 * left.length + (fuel + 1)) :
    readItems? (fuel + 1) cs = some (items, left) := by
  cases spelled with
  | @lastItem item cs behind left spelled closed =>
      have closedLess := closed.length_le
      rw [List.length_cons] at closedLess
      have read : readValue? fuel cs = some (item, behind) :=
        ih spelled (closed.stops_goesOn (stops_cons rfl left)) (by omega)
      refine Option.bind_eq_some_iff.2 ⟨_, read, ?_⟩
      simp only [closed.skipBlanks_eq (stops_cons rfl left)]
      rfl
  | @item item items cs behind next left spelled comma later =>
      have commaLess := comma.length_lt
      have itemLess := spelled.length_lt
      have laterLess := later.length_lt
      obtain ⟨rest, blanks, moreBlanks⟩ := comma
      have read : readValue? fuel cs = some (item, behind) :=
        ih spelled (blanks.stops_goesOn (stops_cons rfl rest)) (by omega)
      have readLater : readItems? fuel next = some (items, left) := ih later trivial (by omega)
      refine Option.bind_eq_some_iff.2 ⟨_, read, ?_⟩
      simp only [blanks.skipBlanks_eq (stops_cons rfl rest), later.skipBlanks_eq moreBlanks]
      exact Option.bind_eq_some_iff.2 ⟨_, readLater, rfl⟩

theorem readFields?_of_spells {fields : List (List StringUnit × Json)}
    (spelled : Spells (.fields fields) cs left)
    (enough : 2 * cs.length ≤ 2 * left.length + (fuel + 1)) :
    readFields? (fuel + 1) cs = some (fields, left) := by
  cases spelled with
  | @lastField name value cs behindName first behind left named colon spelled closed =>
      have nameLess := named.length_lt
      have colonLess := colon.length_lt
      have closedLess := closed.length_le
      rw [List.length_cons] at enough closedLess
      obtain ⟨rest, blanks, moreBlanks⟩ := colon
      have read : readValue? fuel first = some (value, behind) :=
        ih spelled (closed.stops_goesOn (stops_cons rfl left)) (by omega)
      refine Option.bind_eq_some_iff.2 ⟨_, named.readString?_eq, ?_⟩
      simp only [blanks.skipBlanks_eq (stops_cons rfl rest), spelled.skipBlanks_eq moreBlanks]
      refine Option.bind_eq_some_iff.2 ⟨_, read, ?_⟩
      simp only [closed.skipBlanks_eq (stops_cons rfl left)]
      rfl
  | @field name value fields cs behindName first behind next left named colon spelled comma later =>
      have nameLess := named.length_lt
      have colonLess := colon.length_lt
      have valueLess := spelled.length_lt
      have commaLess := comma.length_lt
      have laterLess := later.length_lt
      rw [List.length_cons] at enough
      obtain ⟨rest, blanks, moreBlanks⟩ := colon
      obtain ⟨more, commaBlanks, nextBlanks⟩ := comma
      have read : readValue? fuel first = some (value, behind) :=
        ih spelled (commaBlanks.stops_goesOn (stops_cons rfl more)) (by omega)
      have readLater : readFields? fuel next = some (fields, left) := ih later trivial (by omega)
      refine Option.bind_eq_some_iff.2 ⟨_, named.readString?_eq, ?_⟩
      simp only [blanks.skipBlanks_eq (stops_cons rfl rest), spelled.skipBlanks_eq moreBlanks]
      refine Option.bind_eq_some_iff.2 ⟨_, read, ?_⟩
      simp only [commaBlanks.skipBlanks_eq (stops_cons rfl more), later.skipBlanks_eq nextBlanks]
      exact Option.bind_eq_some_iff.2 ⟨_, readLater, rfl⟩

end Complete

/-- What is written as the grammar says is read; two steps for each character are enough. -/
theorem Spells.isRead {fuel : Nat} {part : Part} (spelled : Spells part cs left)
    (follows : part.Follows left) (enough : 2 * cs.length ≤ 2 * left.length + fuel) :
    part.IsRead fuel cs left := by
  induction fuel generalizing part cs left with
  | zero =>
      have := spelled.length_lt
      omega
  | succ fuel ih =>
      cases part with
      | value j => exact readValue?_of_spells ih spelled follows enough
      | items items => exact readItems?_of_spells ih spelled enough
      | fields fields => exact readFields?_of_spells ih spelled enough

/-- A text is read as a value exactly if it writes that value. -/
theorem read?_eq_some_iff {j : Json} : read? cs = some j ↔ Writes cs j := by
  constructor
  · intro read
    obtain ⟨⟨value, left⟩, valueRead, read⟩ := Option.bind_eq_some_iff.1 read
    have isRead : Part.IsRead _ _ left (.value value) := valueRead
    have spelled := isRead.spells
    simp only [Option.ite_none_right_eq_some, List.isEmpty_iff] at read
    obtain ⟨ended, same⟩ := read
    obtain rfl := Option.some.inj same
    exact ⟨_, _, blanks_skipBlanks cs, spelled, ended ▸ blanks_skipBlanks left⟩
  · rintro ⟨first, left, blanks, spelled, ended⟩
    have within := blanks.length_le
    have read : readValue? (2 * cs.length + 2) first = some (j, left) := by
      apply spelled.isRead
      · exact ended.stops_goesOn nofun
      · omega
    rw [read?, spelled.skipBlanks_eq blanks, read]
    simp only [bind, Option.bind_some, ended.skipBlanks_eq nofun, List.isEmpty_nil, if_true]

end ModalLexer.Json
