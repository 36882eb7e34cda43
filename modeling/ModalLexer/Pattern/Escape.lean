import ModalLexer.Pattern.Blank
import ModalLexer.Pattern.Lexeme

/-! # Escapes

What may follow a backslash: character codes, classes, assertions, control characters and
every ASCII sign that is neither a letter, a digit, `<` nor `>`. -/
set_option autoImplicit false
namespace ModalLexer

/-- The characters that mean something in a pattern and are written with a backslash when meant
literally. -/
def isMeta (c : Char) : Bool :=
  ['\\', '.', '+', '*', '?', '(', ')', '|', '[', ']', '\x7b', '\x7d', '^', '$', '#', '&', '-',
    '~'].contains c

namespace Reading

def isEscapable (c : Char) : Bool :=
  isMeta c || (c.toNat < 0x80 && !c.isAlphanum && c != '<' && c != '>')

def charOfCode? (n : Nat) : Option Char := if n.isValidChar then some (Char.ofNat n) else none

def hexDigits? (cs : List Char) : Option (List Nat) := cs.mapM hexDigit?

def takeSpaced? (verbose : Bool) : Nat → List Char → Option (List Char × List Char)
  | 0, cs => some ([], cs)
  | n + 1, cs =>
      match skipBlank verbose cs with
      | [] => none
      | c :: rest => (takeSpaced? verbose n rest).map fun (read, left) => (c :: read, left)

def codeOfDigits? (digits : List Char) : Option Char := do
  let values ← hexDigits? digits
  if values.isEmpty then none else charOfCode? (numeral 16 values)

/-- Reads the code of `\x`, `\u` or `\U`, which has `width` digits or stands in braces. -/
def readCode? (verbose : Bool) (width : Nat) (cs : List Char) : Option (Char × Bool × List Char) :=
  match skipBlank verbose cs with
  | '\x7b' :: inside =>
      match collect verbose (· = '\x7d') inside with
      | (digits, _ :: left) => (codeOfDigits? digits).map fun c => (c, true, left)
      | (_, []) => none
  | digitsFirst => do
      let (digits, left) ← takeSpaced? verbose width digitsFirst
      let c ← codeOfDigits? digits
      return (c, false, left)

def cutAtUnequal? : List Char → Option (List Char × List Char)
  | '!' :: '=' :: value => some ([], value)
  | c :: rest => (cutAtUnequal? rest).map fun (name, value) => (c :: name, value)
  | [] => none

def cutAt? (sep : Char) : List Char → Option (List Char × List Char)
  | [] => none
  | c :: rest =>
      if c = sep then some ([], rest)
      else (cutAt? sep rest).map fun (name, value) => (c :: name, value)

/-- What the text in the braces of `\p{..}` asks for, and whether it asks for the opposite. -/
def propertyQuery (name : List Char) : PropertyQuery × Bool :=
  match cutAtUnequal? name with
  | some (property, value) => (.valued property value, true)
  | none =>
      match (cutAt? ':' name).or (cutAt? '=' name) with
      | some (property, value) => (.valued property value, false)
      | none => (.named name, false)

def readProperty? (verbose negated : Bool) (cs : List Char) : Option (Atom × List Char) :=
  match skipBlank verbose cs with
  | [] => none
  | '\x7b' :: inside =>
      match collect verbose (· = '\x7d') inside with
      | (_, []) => none
      | (name, _ :: left) =>
          let (query, opposite) := propertyQuery name
          some (.property query (negated != opposite), left)
  | c :: left => if c = '\\' then none else some (.property (.named [c]) negated, left)

def isEdgeChar (c : Char) : Bool := c.isAlpha || c = '-'

def edgeOfName? (name : List Char) : Option WordEdge :=
  if name = "start".toList then some .wordStart
  else if name = "end".toList then some .wordEnd
  else if name = "start-half".toList then some .startHalf
  else if name = "end-half".toList then some .endHalf
  else none

/-- Reads what follows `\b`: nothing, or the name of a word edge in braces.  Braces that begin
with anything but a letter or a hyphen are left for a repetition. -/
def readEdge? (verbose : Bool) (cs : List Char) : Option (Atom × List Char) :=
  match cs with
  | '\x7b' :: inside =>
      match skipBlank verbose inside with
      | [] => none
      | first :: more =>
          if isEdgeChar first then
            match collect verbose (!isEdgeChar ·) (first :: more) with
            | (name, '\x7d' :: left) =>
                (edgeOfName? name).map fun edge => (.assertion (.word edge), left)
            | _ => none
          else some (.assertion (.word .boundary), cs)
  | _ => some (.assertion (.word .boundary), cs)

def control? (c : Char) : Option Char :=
  match c with
  | 'a' => some '\x07'
  | 'f' => some '\x0C'
  | 't' => some '\t'
  | 'n' => some '\n'
  | 'r' => some '\r'
  | 'v' => some '\x0B'
  | _ => none

def readEscape? (verbose : Bool) : List Char → Option (Atom × List Char)
  | [] => none
  | c :: rest =>
      match c with
      | 'x' => (readCode? verbose 2 rest).map fun (d, braced, left) => (.literal d (!braced), left)
      | 'u' => (readCode? verbose 4 rest).map fun (d, _, left) => (.literal d false, left)
      | 'U' => (readCode? verbose 8 rest).map fun (d, _, left) => (.literal d false, left)
      | 'p' => readProperty? verbose false rest
      | 'P' => readProperty? verbose true rest
      | 'd' => some (.shorthand .digit false, rest)
      | 'D' => some (.shorthand .digit true, rest)
      | 's' => some (.shorthand .space false, rest)
      | 'S' => some (.shorthand .space true, rest)
      | 'w' => some (.shorthand .word false, rest)
      | 'W' => some (.shorthand .word true, rest)
      | 'A' => some (.assertion .textStart, rest)
      | 'z' => some (.assertion .textEnd, rest)
      | 'b' => readEdge? verbose rest
      | 'B' => some (.assertion (.word .interior), rest)
      | '<' => some (.assertion (.word .wordStart), rest)
      | '>' => some (.assertion (.word .wordEnd), rest)
      | _ =>
          if isEscapable c then some (.literal c false, rest)
          else (control? c).map fun d => (.literal d false, rest)

end Reading

end ModalLexer
