import ModalLexer.Json.Reader
import ModalLexer.Json.Writer
import ModalLexer.Scan.Scanner
import ModalLexer.Text.Quoted
import ModalLexer.Text.Shortest

/-! # Tokens, checkpoints and scanners as text

Tokens and checkpoints are written as compact JSON.  A checkpoint is read back from an object with
its three fields in any order, among others, or from an array of the three. -/
set_option autoImplicit false
namespace ModalLexer

namespace Decimal

/-- Digits with a point among them, behind zeros if the point comes first, or with an exponent:
a number of up to sixteen digits before the point, or up to four zeros behind it, is written
without one. -/
def chars (d : Decimal) : List Char :=
  let digits := Nat.toDigits 10 d.digits
  let point : Int := digits.length + d.exponent
  if 0 ≤ d.exponent ∧ point ≤ 16 then
    digits ++ List.replicate d.exponent.toNat '0' ++ ['.', '0']
  else if 0 < point ∧ point ≤ 16 then
    digits.take point.toNat ++ '.' :: digits.drop point.toNat
  else if -5 < point ∧ point ≤ 0 then
    ['0', '.'] ++ List.replicate (-point).toNat '0' ++ digits
  else
    let exponent := (toString (point - 1)).toList
    match digits with
    | [digit] => digit :: 'e' :: exponent
    | first :: rest => first :: '.' :: rest ++ 'e' :: exponent
    | [] => []

end Decimal

/-- A number in floating point as JSON, which can write the finite ones only. -/
def Json.ofFloatBits (bits : UInt64) : Json :=
  match FloatParts.ofBits bits with
  | .zero negative => .number ((if negative then ['-'] else []) ++ ['0', '.', '0'])
  | .finite negative m q tight =>
      .number ((if negative then ['-'] else []) ++ (shortest m q tight).chars)
  | .infinite => .null
  | .notANumber => .null

namespace Value

mutual

def toJson : Value → Json
  | .text s => .ofFields [("Text", .ofString s)]
  | .integer n => .ofFields [("Integer", .ofInt n)]
  | .float bits => .ofFields [("Float", .ofFloatBits bits)]
  | .bool b => .ofFields [("Bool", .bool b)]
  | .list items => .ofFields [("List", .array (itemsToJson items))]
  | .map entries => .ofFields [("Map", .object (entriesToJson entries))]
  | .nothing => .ofString "Nothing"

def itemsToJson : List Value → List Json
  | [] => []
  | item :: rest => item.toJson :: itemsToJson rest

def entriesToJson : List (String × Value) → List (List StringUnit × Json)
  | [] => []
  | (key, value) :: rest => (Json.units key, value.toJson) :: entriesToJson rest

end

end Value

namespace Token

def toJson (t : Token) : Json :=
  .ofFields [("kind", .ofString t.kind), ("text", .ofString t.text), ("value", t.value.toJson),
    ("line", .ofNat t.line.toNat), ("col", .ofNat t.col.toNat), ("offset", .ofNat t.offset),
    ("line_breaks", .ofNat t.lineBreaks), ("is_error", .bool t.isError),
    ("variant", .ofNat t.variant)]

end Token

namespace Checkpoint

def toJson (c : Checkpoint) : Json :=
  .ofFields [("line", .ofNat c.line.toNat), ("col", .ofNat c.col.toNat), ("offset", .ofNat c.offset)]

def largestField : Nat := 0xFFFFFFFFFFFFFFFF

def fieldOfJson? : Json → Option Nat
  | .number digits =>
      if digits.all Char.isDigit then
        let n := digits.foldl (fun n c => n * 10 + (c.toNat - '0'.toNat)) 0
        if n ≤ largestField then some n else none
      else none
  | _ => none

structure Found where
  line : Option Nat
  col : Option Nat
  offset : Option Nat

/-- Takes in a field.  None of the three may come twice, and others are passed over. -/
def Found.add? (f : Found) (name : List StringUnit) (value : Json) : Option Found :=
  match Json.text? name with
  | none => none
  | some text =>
      if text = "line".toList then
        if f.line.isSome then none else (fieldOfJson? value).map fun n => { f with line := some n }
      else if text = "col".toList then
        if f.col.isSome then none else (fieldOfJson? value).map fun n => { f with col := some n }
      else if text = "offset".toList then
        if f.offset.isSome then none
        else (fieldOfJson? value).map fun n => { f with offset := some n }
      else some f

def Found.checkpoint? (f : Found) : Option Checkpoint :=
  match f.line, f.col, f.offset with
  | some line, some col, some offset => some ⟨.ofNat line, .ofNat col, offset⟩
  | _, _, _ => none

def ofJson? : Json → Option Checkpoint
  | .object fields =>
      (fields.foldlM (fun f (name, value) => Found.add? f name value) ⟨none, none, none⟩).bind
        Found.checkpoint?
  | .array [line, col, offset] => do
      return ⟨.ofNat (← fieldOfJson? line), .ofNat (← fieldOfJson? col), ← fieldOfJson? offset⟩
  | _ => none

def read? (text : String) : Option Checkpoint := (Json.read? text.toList).bind ofJson?

end Checkpoint

namespace Scanner

/-- The state of a scanner on one line; the stack is listed from the outermost mode. -/
def summary {σ : Type} (l : Lexer σ) (s : Scanner) : String :=
  let name (mode : Nat) := Quoted.quoted (l.modeName mode)
  "Scanner \x7b mode: " ++ name s.active ++ ", stack: [" ++
    ", ".intercalate (s.stack.reverse.map name) ++ "], location: Location \x7b line: " ++
    toString s.location.line ++ ", col: " ++ toString s.location.col ++ " \x7d, offset: " ++
    toString s.offset ++ ", done: " ++ toString s.done ++ " \x7d"

end Scanner

end ModalLexer
