/-! # The pieces of a written pattern

A pattern is written as a sequence of lexemes: atoms, which match by themselves, and the signs
that group, separate and repeat them.  Flags are resolved later, so an atom says what was
written and not yet what it matches. -/
set_option autoImplicit false
namespace ModalLexer

inductive Flag
  | ignoreCase
  | multiLine
  | dotNewline
  | swapGreed
  | unicode
  | crlf
  | verbose
deriving DecidableEq

/-- Flags turned on (`true`) and off, in the order written. -/
abbrev FlagChange := List (Flag × Bool)

inductive Shorthand
  | digit
  | space
  | word
deriving DecidableEq

inductive WordEdge
  | boundary
  | interior
  | wordStart
  | wordEnd
  | startHalf
  | endHalf
deriving DecidableEq

inductive Assertion
  | lineStart
  | lineEnd
  | textStart
  | textEnd
  | word (edge : WordEdge)
deriving DecidableEq

/-- What stands in `\p{..}`: a name, or a property and its value. -/
inductive PropertyQuery
  | named (name : List Char)
  | valued (property value : List Char)
deriving DecidableEq

inductive Posix
  | alnum
  | alpha
  | ascii
  | blank
  | cntrl
  | digit
  | graph
  | lower
  | print
  | punct
  | space
  | upper
  | word
  | xdigit
deriving DecidableEq

/-- The operators between sets in brackets: `&&`, `--` and `~~`. -/
inductive SetOp
  | inter
  | diff
  | symmDiff
deriving DecidableEq

inductive Bracket
  | nothing
  | range (lo hi : Char)
  | shorthand (kind : Shorthand) (negated : Bool)
  | property (query : PropertyQuery) (negated : Bool)
  | posix (kind : Posix) (negated : Bool)
  | nested (negated : Bool) (inside : Bracket)
  | join (first rest : Bracket)
  | op (kind : SetOp) (left right : Bracket)
deriving DecidableEq

/-- A piece that matches by itself.  `asByte` marks a character written `\xHH`. -/
inductive Atom
  | literal (char : Char) (asByte : Bool)
  | dot
  | assertion (kind : Assertion)
  | shorthand (kind : Shorthand) (negated : Bool)
  | property (query : PropertyQuery) (negated : Bool)
  | bracket (negated : Bool) (inside : Bracket)
deriving DecidableEq

/-- What an opening parenthesis begins: a capture group, perhaps named, or a plain group with
flags of its own. -/
inductive Grouping
  | capture (name : Option String)
  | plain (change : FlagChange)
deriving DecidableEq

inductive Lexeme
  | atom (a : Atom)
  | opening (grouping : Grouping)
  | closing
  | bar
  | flags (change : FlagChange)
  | repetition (least : Nat) (most : Option Nat) (greedy : Bool)
deriving DecidableEq

end ModalLexer
