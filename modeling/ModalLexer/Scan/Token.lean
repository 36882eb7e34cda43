import ModalLexer.Scan.Location

/-! # Tokens -/
set_option autoImplicit false
namespace ModalLexer

/-- A match of a rule: the name of the rule, the text, its value, where it starts, the line breaks
it counts as, whether the rule is an error rule, and which variant matched. -/
structure Token where
  kind : String
  text : String
  value : Value
  line : UInt64
  col : UInt64
  offset : Nat
  lineBreaks : Nat
  isError : Bool
  variant : Nat

namespace Token

def location (t : Token) : Location := ⟨t.line, t.col⟩

def checkpoint (t : Token) : Checkpoint := .ofLocation t.location t.offset

def stop (t : Token) : Nat := t.offset + byteLength t.text.toList

/-- The number of characters before the token in a text, if its offset is a place there. -/
def charOffset? (t : Token) (text : List Char) : Option Nat :=
  (Spot.at? text t.offset).map fun s => s.past.length

end Token

end ModalLexer
