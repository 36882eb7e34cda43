/-! # Lines of a text

A line break is a carriage return, a line feed, or the two side by side in either order.
`breakCount` counts breaks from left to right; `tail` is what follows the last one. -/
set_option autoImplicit false
namespace ModalLexer.Lines

def isBreak (c : Char) : Bool := c = '\r' || c = '\n'

/-- The number of line breaks in a text. -/
def breakCount : List Char → Nat
  | [] => 0
  | '\r' :: '\n' :: rest => breakCount rest + 1
  | '\n' :: '\r' :: rest => breakCount rest + 1
  | c :: rest => if isBreak c then breakCount rest + 1 else breakCount rest

def tail (text : List Char) : List Char := (text.reverse.takeWhile (!isBreak ·)).reverse

def head (text : List Char) : List Char := text.takeWhile (!isBreak ·)

end ModalLexer.Lines
