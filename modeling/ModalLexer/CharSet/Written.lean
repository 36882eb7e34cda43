import ModalLexer.CharSet.Basic

/-! # Character sets written as text

A set is written as hexadecimal code points and spans of them, separated by blanks:
`41-5A 61-7A AA`.  `CharSet.ofText` reads that form. -/
set_option autoImplicit false
namespace ModalLexer

def hexDigit? (c : Char) : Option Nat :=
  if '0' ≤ c ∧ c ≤ '9' then some (c.toNat - '0'.toNat)
  else if 'a' ≤ c ∧ c ≤ 'f' then some (c.toNat - 'a'.toNat + 10)
  else if 'A' ≤ c ∧ c ≤ 'F' then some (c.toNat - 'A'.toNat + 10)
  else none

/-- The state of a reader that goes from right to left: the number read so far and the weight of
its next digit, the upper end of the span being read, and the spans behind it. -/
structure SpanReader where
  number : Nat
  weight : Nat
  hi : Option Nat
  done : List Interval

namespace SpanReader

def start : SpanReader := ⟨0, 1, none, []⟩

/-- Closes the span that was being read, if there was one.  A span that runs downwards is empty. -/
def close (r : SpanReader) : SpanReader :=
  if r.weight = 1 then r
  else
    let hi := r.hi.getD r.number
    ⟨0, 1, none, if r.number ≤ hi then insertInterval ⟨r.number, hi⟩ r.done else r.done⟩

def read (c : Char) (r : SpanReader) : SpanReader :=
  match hexDigit? c with
  | some digit => { r with number := r.number + digit * r.weight, weight := r.weight * 16 }
  | none =>
      if c = '-' then { r with number := 0, weight := 1, hi := some r.number }
      else r.close

end SpanReader

/-- The set that a text such as `41-5A AA` denotes. -/
def CharSet.ofText (text : String) : CharSet :=
  ⟨(text.toList.foldr SpanReader.read SpanReader.start).close.done⟩

end ModalLexer
