/-! # JSON texts

`Json` is a JSON text with its layout forgotten.  A number is kept as it is written.  A string is
kept as units, for a code written `\uXXXX` may be half of a pair. -/
set_option autoImplicit false
namespace ModalLexer

inductive StringUnit
  | char (c : Char)
  | code (n : Nat)
deriving DecidableEq

inductive Json
  | null
  | bool (b : Bool)
  | number (digits : List Char)
  | string (units : List StringUnit)
  | array (items : List Json)
  | object (fields : List (List StringUnit × Json))

namespace Json

def isHighHalf (n : Nat) : Bool := 0xD800 ≤ n && n < 0xDC00

def isLowHalf (n : Nat) : Bool := 0xDC00 ≤ n && n < 0xE000

/-- The text of a string, unless it holds half of a pair alone. -/
def text? : List StringUnit → Option (List Char)
  | [] => some []
  | .char c :: rest => (text? rest).map (c :: ·)
  | .code high :: .code low :: rest =>
      if isHighHalf high then
        if isLowHalf low then
          (text? rest).map (Char.ofNat (0x10000 + (high - 0xD800) * 0x400 + (low - 0xDC00)) :: ·)
        else none
      else if isLowHalf high then none
      else (text? (.code low :: rest)).map (Char.ofNat high :: ·)
  | .code n :: rest =>
      if isHighHalf n || isLowHalf n then none else (text? rest).map (Char.ofNat n :: ·)

def units (text : String) : List StringUnit := text.toList.map .char

def ofString (text : String) : Json := .string (units text)

def ofNat (n : Nat) : Json := .number (Nat.toDigits 10 n)

def ofInt (n : Int) : Json :=
  match n with
  | .ofNat n => .ofNat n
  | .negSucc n => .number ('-' :: Nat.toDigits 10 (n + 1))

def ofFields (fields : List (String × Json)) : Json :=
  .object (fields.map fun (name, value) => (units name, value))

end Json

end ModalLexer
