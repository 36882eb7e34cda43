import ModalLexer.Scan.Token

/-! # Pointing at a token in its text -/
set_option autoImplicit false
namespace ModalLexer

/-- Cuts a text at the last place not beyond a number of bytes. -/
def cutBefore : Nat → List Char → List Char × List Char
  | _, [] => ([], [])
  | n, c :: rest =>
      if n < c.utf8Size then ([], c :: rest)
      else
        let (front, back) := cutBefore (n - c.utf8Size) rest
        (c :: front, back)

/-- The line around an offset, without what ends it.  An offset past the end or inside a character
counts as the last place before it. -/
def lineAround (text : List Char) (offset : Nat) : List Char :=
  let (front, back) := cutBefore offset text
  Lines.tail front ++ Lines.head back

structure Diagnostic where
  kind : String
  location : Location
  line : String

namespace Diagnostic

def ofToken (text : List Char) (t : Token) : Diagnostic :=
  ⟨t.kind, t.location, .ofList (lineAround text t.offset)⟩

def message (d : Diagnostic) : String :=
  s!"Error: {d.kind} at line {d.location.line} col {d.location.col}:\n\n{d.line}\n" ++
    .ofList (List.replicate ((d.location.col : Nat) - 1) ' ') ++ "^"

end Diagnostic

end ModalLexer
