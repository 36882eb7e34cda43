import ModalLexer.Json.Reader

/-! # The grammar of JSON

`Json.Spells` says how a value is written at the head of a text, with white space between the tokens
and with any escapes, and what is left behind it.  `Json.Writes` says of a whole text that it is one
value.  The grammar knows no order in which a text is gone through and no bound on its depth. -/
set_option autoImplicit false
namespace ModalLexer.Json

def Blanks (cs left : List Char) : Prop :=
  ∃ blanks : List Char, (∀ c ∈ blanks, isBlank c = true) ∧ cs = blanks ++ left

/-- A character between tokens, with white space around it. -/
def Separator (c : Char) (cs left : List Char) : Prop :=
  ∃ rest, Blanks cs (c :: rest) ∧ Blanks rest left

theorem Blanks.none (cs : List Char) : Blanks cs cs := ⟨[], nofun, rfl⟩

theorem Separator.alone (c : Char) (cs : List Char) : Separator c (c :: cs) cs :=
  ⟨cs, .none _, .none _⟩

/-! ## Numbers -/

def Digits (digits : List Char) : Prop := digits ≠ [] ∧ ∀ d ∈ digits, d.isDigit = true

/-- The part of a number before the point begins with a zero only if it is one. -/
inductive IsWhole : List Char → Prop
  | zero : IsWhole ['0']
  | digits {digits : List Char} (run : Digits digits) (first : digits.head? ≠ some '0') :
      IsWhole digits

inductive IsFraction : List Char → Prop
  | none : IsFraction []
  | digits {digits : List Char} (run : Digits digits) : IsFraction ('.' :: digits)

inductive IsExponent : List Char → Prop
  | none : IsExponent []
  | digits {e : Char} {sign digits : List Char} (letter : e = 'e' ∨ e = 'E')
      (signed : sign = [] ∨ sign = ['+'] ∨ sign = ['-']) (run : Digits digits) :
      IsExponent (e :: sign ++ digits)

inductive IsNumber : List Char → Prop
  | parts {sign whole fraction exponent : List Char} (signed : sign = [] ∨ sign = ['-'])
      (isWhole : IsWhole whole) (isFraction : IsFraction fraction)
      (isExponent : IsExponent exponent) : IsNumber (sign ++ whole ++ fraction ++ exponent)

/-! ## Strings -/

def escapes : List (Char × Char) :=
  [('"', '"'), ('\\', '\\'), ('/', '/'), ('b', '\x08'), ('f', '\x0C'), ('n', '\n'), ('r', '\r'),
    ('t', '\t')]

inductive IsCode : List Char → Nat → Prop
  | digits {a b c d : Char} {w x y z : Nat} (first : hexDigit? a = some w)
      (second : hexDigit? b = some x) (third : hexDigit? c = some y)
      (fourth : hexDigit? d = some z) : IsCode [a, b, c, d] (((w * 16 + x) * 16 + y) * 16 + z)

/-- The units of a string as they are written behind the opening quote, up to the closing one. -/
inductive SpellsUnits : List StringUnit → List Char → List Char → Prop
  | close (left : List Char) : SpellsUnits [] ('"' :: left) left
  | plain {c : Char} {units : List StringUnit} {cs left : List Char} (printable : 0x20 ≤ c.toNat)
      (no_quote : c ≠ '"') (no_backslash : c ≠ '\\') (later : SpellsUnits units cs left) :
      SpellsUnits (.char c :: units) (c :: cs) left
  | escape {e c : Char} {units : List StringUnit} {cs left : List Char}
      (listed : (e, c) ∈ escapes) (later : SpellsUnits units cs left) :
      SpellsUnits (.char c :: units) ('\\' :: e :: cs) left
  | code {digits : List Char} {n : Nat} {units : List StringUnit} {cs left : List Char}
      (isCode : IsCode digits n) (later : SpellsUnits units cs left) :
      SpellsUnits (.code n :: units) ('\\' :: 'u' :: digits ++ cs) left

/-! ## Values -/

/-- A value, the items of an array or the fields of an object. -/
inductive Part
  | value (j : Json)
  | items (items : List Json)
  | fields (fields : List (List StringUnit × Json))

/-- A part as it is written at the head of a text, and what is left behind it.  Items and fields, of
which there is one at least, go up to the closing bracket. -/
inductive Spells : Part → List Char → List Char → Prop
  | null (left : List Char) : Spells (.value .null) ("null".toList ++ left) left
  | bool (b : Bool) (left : List Char) : Spells (.value (.bool b)) ((toString b).toList ++ left) left
  | number {number : List Char} (isNumber : IsNumber number) (left : List Char) :
      Spells (.value (.number number)) (number ++ left) left
  | string {units : List StringUnit} {cs left : List Char} (spelled : SpellsUnits units cs left) :
      Spells (.value (.string units)) ('"' :: cs) left
  | emptyArray {cs left : List Char} (blanks : Blanks cs (']' :: left)) :
      Spells (.value (.array [])) ('[' :: cs) left
  | array {items : List Json} {cs first left : List Char} (blanks : Blanks cs first)
      (spelled : Spells (.items items) first left) : Spells (.value (.array items)) ('[' :: cs) left
  | emptyObject {cs left : List Char} (blanks : Blanks cs ('\x7d' :: left)) :
      Spells (.value (.object [])) ('\x7b' :: cs) left
  | object {fields : List (List StringUnit × Json)} {cs first left : List Char}
      (blanks : Blanks cs first) (spelled : Spells (.fields fields) first left) :
      Spells (.value (.object fields)) ('\x7b' :: cs) left
  | lastItem {item : Json} {cs behind left : List Char} (spelled : Spells (.value item) cs behind)
      (closed : Blanks behind (']' :: left)) : Spells (.items [item]) cs left
  | item {item : Json} {items : List Json} {cs behind next left : List Char}
      (spelled : Spells (.value item) cs behind) (comma : Separator ',' behind next)
      (later : Spells (.items items) next left) : Spells (.items (item :: items)) cs left
  | lastField {name : List StringUnit} {value : Json} {cs behindName first behind left : List Char}
      (named : SpellsUnits name cs behindName) (colon : Separator ':' behindName first)
      (spelled : Spells (.value value) first behind) (closed : Blanks behind ('\x7d' :: left)) :
      Spells (.fields [(name, value)]) ('"' :: cs) left
  | field {name : List StringUnit} {value : Json} {fields : List (List StringUnit × Json)}
      {cs behindName first behind next left : List Char} (named : SpellsUnits name cs behindName)
      (colon : Separator ':' behindName first) (spelled : Spells (.value value) first behind)
      (comma : Separator ',' behind next) (later : Spells (.fields fields) next left) :
      Spells (.fields ((name, value) :: fields)) ('"' :: cs) left

/-- A text is one value, with white space around it. -/
def Writes (cs : List Char) (j : Json) : Prop :=
  ∃ first left, Blanks cs first ∧ Spells (.value j) first left ∧ Blanks left []

end ModalLexer.Json
