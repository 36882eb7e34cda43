import ModalLexer.Pattern.Quote

/-! # What a rule is told to match

A source is a text meant literally, a pattern, or an ordered choice of sources.  All of it ends
up as one written pattern, in which bars separate the alternatives of a choice.  A choice of
nothing has none. -/
set_option autoImplicit false
namespace ModalLexer

inductive Source
  | literal (text : String)
  | regex (pattern : String)
  | oneOf (alternatives : List Source)

def joinBars : List (List Char) → List Char
  | [] => []
  | [p] => p
  | p :: rest => p ++ '|' :: joinBars rest

namespace Source

def keywords (texts : List String) : Source := .oneOf (texts.map .literal)

mutual

/-- The written pattern of a source, unless it holds a choice of nothing. -/
def fragment? : Source → Option (List Char)
  | .literal text => some (quote text.toList)
  | .regex pattern => some pattern.toList
  | .oneOf [] => none
  | .oneOf (first :: rest) => (fragments? (first :: rest)).map joinBars

def fragments? : List Source → Option (List (List Char))
  | [] => some []
  | first :: rest =>
      match first.fragment?, fragments? rest with
      | some fragment, some more => some (fragment :: more)
      | _, _ => none

end

end Source

end ModalLexer
