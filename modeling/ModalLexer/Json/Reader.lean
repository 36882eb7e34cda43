import ModalLexer.CharSet.Written
import ModalLexer.Json.Basic

/-! # Reading JSON

`Json.read?` reads one JSON text with blanks around it.  The readers of its parts return what is
left; those of nested parts carry a bound on their steps, for which the length of the text
always suffices. -/
set_option autoImplicit false
namespace ModalLexer.Json

def isBlank (c : Char) : Bool := c = ' ' || c = '\n' || c = '\t' || c = '\r'

def skipBlanks (cs : List Char) : List Char := cs.dropWhile isBlank

def readCode? : List Char → Option (Nat × List Char)
  | a :: b :: c :: d :: rest => do
      let a ← hexDigit? a
      let b ← hexDigit? b
      let c ← hexDigit? c
      let d ← hexDigit? d
      return (((a * 16 + b) * 16 + c) * 16 + d, rest)
  | _ => none

def escaped? (c : Char) : Option Char :=
  match c with
  | '"' => some '"'
  | '\\' => some '\\'
  | '/' => some '/'
  | 'b' => some '\x08'
  | 'f' => some '\x0C'
  | 'n' => some '\n'
  | 'r' => some '\r'
  | 't' => some '\t'
  | _ => none

/-- Reads a string behind its opening quote, in at most `fuel` units. -/
def readUnits? : Nat → List Char → Option (List StringUnit × List Char)
  | 0, _ => none
  | fuel + 1, cs =>
      match cs with
      | [] => none
      | '"' :: rest => some ([], rest)
      | '\\' :: 'u' :: rest => do
          let (n, behind) ← readCode? rest
          let (units, left) ← readUnits? fuel behind
          return (.code n :: units, left)
      | '\\' :: c :: rest => do
          let d ← escaped? c
          let (units, left) ← readUnits? fuel rest
          return (.char d :: units, left)
      | c :: rest =>
          if c.toNat < 0x20 ∨ c = '\\' then none
          else (readUnits? fuel rest).map fun (units, left) => (.char c :: units, left)

def readString? (cs : List Char) : Option (List StringUnit × List Char) :=
  readUnits? (cs.length + 1) cs

def readDigits? (cs : List Char) : Option (List Char × List Char) :=
  let digits := cs.takeWhile Char.isDigit
  if digits.isEmpty then none else some (digits, cs.dropWhile Char.isDigit)

/-- Reads the whole part of a number, which begins with a zero only if it is one. -/
def readWhole? (cs : List Char) : Option (List Char × List Char) :=
  match cs with
  | '0' :: rest => some (['0'], rest)
  | _ => readDigits? cs

def readFraction? (cs : List Char) : Option (List Char × List Char) :=
  match cs with
  | '.' :: rest => (readDigits? rest).map fun (digits, left) => ('.' :: digits, left)
  | _ => some ([], cs)

def readExponent? (cs : List Char) : Option (List Char × List Char) :=
  match cs with
  | e :: rest =>
      if e = 'e' ∨ e = 'E' then
        match rest with
        | '+' :: more => (readDigits? more).map fun (digits, left) => (e :: '+' :: digits, left)
        | '-' :: more => (readDigits? more).map fun (digits, left) => (e :: '-' :: digits, left)
        | _ => (readDigits? rest).map fun (digits, left) => (e :: digits, left)
      else some ([], cs)
  | [] => some ([], cs)

def readNumber? (cs : List Char) : Option (List Char × List Char) := do
  let (sign, unsigned) := match cs with
    | '-' :: rest => (['-'], rest)
    | _ => ([], cs)
  let (whole, behindWhole) ← readWhole? unsigned
  let (fraction, behindFraction) ← readFraction? behindWhole
  let (exponent, left) ← readExponent? behindFraction
  return (sign ++ whole ++ fraction ++ exponent, left)

mutual

/-- Reads a value that begins without a blank. -/
def readValue? : Nat → List Char → Option (Json × List Char)
  | 0, _ => none
  | fuel + 1, cs =>
      match cs with
      | 'n' :: 'u' :: 'l' :: 'l' :: rest => some (.null, rest)
      | 't' :: 'r' :: 'u' :: 'e' :: rest => some (.bool true, rest)
      | 'f' :: 'a' :: 'l' :: 's' :: 'e' :: rest => some (.bool false, rest)
      | '"' :: rest => (readString? rest).map fun (units, left) => (.string units, left)
      | '[' :: rest =>
          match skipBlanks rest with
          | ']' :: left => some (.array [], left)
          | first => (readItems? fuel first).map fun (items, left) => (.array items, left)
      | '\x7b' :: rest =>
          match skipBlanks rest with
          | '\x7d' :: left => some (.object [], left)
          | first => (readFields? fuel first).map fun (fields, left) => (.object fields, left)
      | _ => (readNumber? cs).map fun (digits, left) => (.number digits, left)

def readItems? : Nat → List Char → Option (List Json × List Char)
  | 0, _ => none
  | fuel + 1, cs => do
      let (item, behind) ← readValue? fuel cs
      match skipBlanks behind with
      | ']' :: left => return ([item], left)
      | ',' :: rest =>
          let (items, left) ← readItems? fuel (skipBlanks rest)
          return (item :: items, left)
      | _ => none

def readFields? : Nat → List Char → Option (List (List StringUnit × Json) × List Char)
  | 0, _ => none
  | fuel + 1, cs =>
      match cs with
      | '"' :: nameFirst => do
          let (name, behindName) ← readString? nameFirst
          match skipBlanks behindName with
          | ':' :: valueFirst =>
              let (value, behind) ← readValue? fuel (skipBlanks valueFirst)
              match skipBlanks behind with
              | '\x7d' :: left => return ([(name, value)], left)
              | ',' :: rest =>
                  let (fields, left) ← readFields? fuel (skipBlanks rest)
                  return ((name, value) :: fields, left)
              | _ => none
          | _ => none
      | _ => none

end

/-- Reads a text that is one JSON value and blanks. -/
def read? (cs : List Char) : Option Json := do
  let (value, left) ← readValue? (2 * cs.length + 2) (skipBlanks cs)
  if (skipBlanks left).isEmpty then some value else none

end ModalLexer.Json
