import ModalLexer.Pattern.Bracket

/-! # Reading the lexemes of a pattern

`lexemes?` cuts a written pattern into its lexemes.  The one thing that reaches from a lexeme to
the next is whether verbose mode is on: a flag turns it on or off until the group around it
ends, so the reader remembers the mode outside each open group. -/
set_option autoImplicit false
namespace ModalLexer.Reading

def flagOfLetter? (c : Char) : Option Flag :=
  match c with
  | 'i' => some .ignoreCase
  | 'm' => some .multiLine
  | 's' => some .dotNewline
  | 'U' => some .swapGreed
  | 'u' => some .unicode
  | 'R' => some .crlf
  | 'x' => some .verbose
  | _ => none

/-- The flags of a group or of a flag directive, the sign that ends them, and what follows. -/
structure FlagText where
  change : FlagChange
  endsInColon : Bool
  left : List Char

/-- Reads flags up to a colon or a closing parenthesis.  No flag may be given twice, and one
hyphen may turn off the flags behind it, of which there must be at least one. -/
def readFlags? (seen : FlagChange) (on afterHyphen : Bool) : List Char → Option FlagText
  | [] => none
  | c :: rest =>
      if c = ':' ∨ c = ')' then
        if afterHyphen then none else some ⟨seen.reverse, c = ':', rest⟩
      else if c = '-' then
        if on then readFlags? seen false true rest else none
      else
        match flagOfLetter? c with
        | none => none
        | some flag =>
            if seen.any (·.1 = flag) then none
            else readFlags? ((flag, on) :: seen) on false rest

def isAlphabetic (c : Char) : Bool :=
  if c.toNat < 0x80 then c.isAlpha else (Unicode.named (Unicode.property? "alphabetic")).contains c

def isNumeric (c : Char) : Bool :=
  if c.toNat < 0x80 then c.isDigit else (Unicode.named (Unicode.category? "n")).contains c

def beginsName (c : Char) : Bool := c = '_' || isAlphabetic c

def continuesName (c : Char) : Bool :=
  c = '_' || c = '.' || c = '[' || c = ']' || isAlphabetic c || isNumeric c

def isGroupName (name : List Char) : Bool :=
  match name with
  | [] => false
  | c :: rest => beginsName c && rest.all continuesName

def readName? (cs : List Char) : Option (Lexeme × List Char) :=
  match cutAt? '>' cs with
  | none => none
  | some (name, left) =>
      if isGroupName name then some (.opening (.capture (some (.ofList name))), left) else none

/-- Reads what follows an opening parenthesis.  Looking ahead and behind is not offered. -/
def readOpening? (cs : List Char) : Option (Lexeme × List Char) :=
  match cs with
  | '?' :: '=' :: _ => none
  | '?' :: '!' :: _ => none
  | '?' :: '<' :: '=' :: _ => none
  | '?' :: '<' :: '!' :: _ => none
  | '?' :: 'P' :: '<' :: rest => readName? rest
  | '?' :: '<' :: rest => readName? rest
  | '?' :: rest =>
      match readFlags? [] true false rest with
      | none => none
      | some ⟨change, true, left⟩ => some (.opening (.plain change), left)
      | some ⟨change, false, left⟩ => if change.isEmpty then none else some (.flags change, left)
  | _ => some (.opening (.capture none), cs)

def readGreed (least : Nat) (most : Option Nat) (cs : List Char) : Lexeme × List Char :=
  match cs with
  | '?' :: left => (.repetition least most false, left)
  | _ => (.repetition least most true, cs)

def readCountEnd? (verbose : Bool) (least : Nat) (most : Option Nat) (cs : List Char) :
    Option (Lexeme × List Char) :=
  match cs with
  | '\x7d' :: rest =>
      if most.all (least ≤ ·) then some (readGreed least most (skipBlank verbose rest)) else none
  | _ => none

def readCounted? (verbose : Bool) (cs : List Char) : Option (Lexeme × List Char) := do
  let (least, behind) ← readCount? verbose (skipBlank verbose cs)
  match behind with
  | ',' :: rest =>
      match skipBlank verbose rest with
      | '\x7d' :: more => readCountEnd? verbose least none ('\x7d' :: more)
      | mostFirst =>
          let (most, left) ← readCount? verbose mostFirst
          readCountEnd? verbose least (some most) left
  | _ => readCountEnd? verbose least (some least) behind

def readLexeme? (verbose : Bool) : List Char → Option (Lexeme × List Char)
  | [] => none
  | c :: rest =>
      match c with
      | '(' => readOpening? (skipBlank verbose rest)
      | ')' => some (.closing, rest)
      | '|' => some (.bar, rest)
      | '[' => (readBracket? verbose rest).map fun (a, left) => (.atom a, left)
      | '?' => some (readGreed 0 (some 1) rest)
      | '*' => some (readGreed 0 none rest)
      | '+' => some (readGreed 1 none rest)
      | '\x7b' => readCounted? verbose rest
      | '\\' => (readEscape? verbose rest).map fun (a, left) => (.atom a, left)
      | '.' => some (.atom .dot, rest)
      | '^' => some (.atom (.assertion .lineStart), rest)
      | '$' => some (.atom (.assertion .lineEnd), rest)
      | _ => some (.atom (.literal c false), rest)

/-- Verbose mode here and outside each open group. -/
structure Verbosity where
  here : Bool
  outside : List Bool

def verboseAfter (change : FlagChange) (before : Bool) : Bool :=
  match change.find? (·.1 = .verbose) with
  | some (_, on) => on
  | none => before

/-- Verbose mode behind a lexeme; a closing parenthesis needs an open group. -/
def Verbosity.after? (v : Verbosity) : Lexeme → Option Verbosity
  | .opening (.plain change) => some ⟨verboseAfter change v.here, v.here :: v.outside⟩
  | .opening (.capture _) => some ⟨v.here, v.here :: v.outside⟩
  | .flags change => some ⟨verboseAfter change v.here, v.outside⟩
  | .closing =>
      match v.outside with
      | [] => none
      | before :: outside => some ⟨before, outside⟩
  | .atom _ => some v
  | .bar => some v
  | .repetition _ _ _ => some v

def lexemesFrom? : Nat → Verbosity → List Char → Option (List Lexeme)
  | 0, v, cs => if (skipBlank v.here cs).isEmpty then some [] else none
  | fuel + 1, v, cs =>
      match skipBlank v.here cs with
      | [] => some []
      | first :: rest => do
          let (lexeme, left) ← readLexeme? v.here (first :: rest)
          let after ← v.after? lexeme
          let more ← lexemesFrom? fuel after left
          return lexeme :: more

/-- The lexemes of a written pattern; there are no more of them than characters. -/
def lexemes? (cs : List Char) : Option (List Lexeme) := lexemesFrom? cs.length ⟨false, []⟩ cs

end ModalLexer.Reading
