import ModalLexer.Json.Basic

/-! # Writing JSON

`Json.compact` writes a JSON text without blanks. -/
set_option autoImplicit false
namespace ModalLexer.Json

def fourDigits (n : Nat) : List Char :=
  let digits := Nat.toDigits 16 n
  List.replicate (4 - digits.length) '0' ++ digits

/-- A unit of a string as it is written.  Only quotes, backslashes and controls are escaped. -/
def writeUnit : StringUnit → List Char
  | .code n => ['\\', 'u'] ++ fourDigits n
  | .char c =>
      match c with
      | '"' => ['\\', '"']
      | '\\' => ['\\', '\\']
      | '\x08' => ['\\', 'b']
      | '\x0C' => ['\\', 'f']
      | '\n' => ['\\', 'n']
      | '\r' => ['\\', 'r']
      | '\t' => ['\\', 't']
      | _ => if c.toNat < 0x20 then ['\\', 'u'] ++ fourDigits c.toNat else [c]

def writeString (units : List StringUnit) : List Char := '"' :: units.flatMap writeUnit ++ ['"']

mutual

def compact : Json → List Char
  | .null => ['n', 'u', 'l', 'l']
  | .bool true => ['t', 'r', 'u', 'e']
  | .bool false => ['f', 'a', 'l', 's', 'e']
  | .number digits => digits
  | .string units => writeString units
  | .array items => '[' :: compactItems items ++ [']']
  | .object fields => '\x7b' :: compactFields fields ++ ['\x7d']

def compactItems : List Json → List Char
  | [] => []
  | [item] => item.compact
  | item :: next :: rest => item.compact ++ ',' :: compactItems (next :: rest)

def compactFields : List (List StringUnit × Json) → List Char
  | [] => []
  | [(name, value)] => writeString name ++ ':' :: value.compact
  | (name, value) :: next :: rest =>
      writeString name ++ ':' :: value.compact ++ ',' :: compactFields (next :: rest)

end

end ModalLexer.Json
