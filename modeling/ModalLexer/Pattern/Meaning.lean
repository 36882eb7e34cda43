import ModalLexer.Pattern.Basic
import ModalLexer.Pattern.Tree
import ModalLexer.Unicode.Age
import ModalLexer.Unicode.Break
import ModalLexer.Unicode.ScriptExtension

/-! # What a written pattern means

`Tree.meaning?` resolves the flags of a written pattern and numbers its capture groups in the
order of their opening parentheses.  A flag directive holds to the end of the group it stands
in, in later branches too.  A pattern has no meaning if it asks for a property that is not
known, or if without the Unicode flag it could match something other than whole characters. -/
set_option autoImplicit false
namespace ModalLexer

structure Flags where
  ignoreCase : Bool
  multiLine : Bool
  dotNewline : Bool
  swapGreed : Bool
  unicode : Bool
  crlf : Bool
deriving DecidableEq

namespace Flags

def standard : Flags := ⟨false, false, false, false, true, false⟩

/-- Lines are told apart, and end in a carriage return, a line feed or both. -/
def multiLineCrlf : Flags := { standard with multiLine := true, crlf := true }

def set (f : Flags) : Flag → Bool → Flags
  | .ignoreCase, on => { f with ignoreCase := on }
  | .multiLine, on => { f with multiLine := on }
  | .dotNewline, on => { f with dotNewline := on }
  | .swapGreed, on => { f with swapGreed := on }
  | .unicode, on => { f with unicode := on }
  | .crlf, on => { f with crlf := on }
  | .verbose, _ => f

def change (f : Flags) (c : FlagChange) : Flags := c.foldl (fun f (flag, on) => f.set flag on) f

end Flags

def PropertyQuery.set? : PropertyQuery → Option CharSet
  | .named name =>
      let name := Unicode.looseName name
      if name = "cf" ∨ name = "sc" ∨ name = "lc" then Unicode.category? name
      else ((Unicode.property? name).or (Unicode.category? name)).or (Unicode.script? name)
  | .valued property value =>
      let property := Unicode.looseName property
      let value := Unicode.looseName value
      if property = "gc" ∨ property = "generalcategory" then Unicode.category? value
      else if property = "sc" ∨ property = "script" then Unicode.script? value
      else if property = "scx" ∨ property = "scriptextensions" then Unicode.scriptExtension? value
      else if property = "age" then Unicode.age? value
      else if property = "gcb" ∨ property = "graphemeclusterbreak" then
        Unicode.find? Unicode.graphemeBreaks value
      else if property = "sb" ∨ property = "sentencebreak" then
        Unicode.find? Unicode.sentenceBreaks value
      else if property = "wb" ∨ property = "wordbreak" then Unicode.find? Unicode.wordBreaks value
      else none

def Posix.set : Posix → CharSet
  | .alnum => .ofText "30-39 41-5A 61-7A"
  | .alpha => .ofText "41-5A 61-7A"
  | .ascii => .ofText "0-7F"
  | .blank => .ofText "9 20"
  | .cntrl => .ofText "0-1F 7F"
  | .digit => .ofText "30-39"
  | .graph => .ofText "21-7E"
  | .lower => .ofText "61-7A"
  | .print => .ofText "20-7E"
  | .punct => .ofText "21-2F 3A-40 5B-60 7B-7E"
  | .space => .ofText "9-D 20"
  | .upper => .ofText "41-5A"
  | .word => .ofText "30-39 41-5A 5F 61-7A"
  | .xdigit => .ofText "30-39 41-46 61-66"

namespace Flags

/-- The complement of a set.  Without the Unicode flag it would hold more than characters. -/
def negate? (f : Flags) (chars : CharSet) (negated : Bool) : Option CharSet :=
  if negated then (if f.unicode then some chars.complement else none) else some chars

def fold (f : Flags) (chars : CharSet) : CharSet :=
  if f.ignoreCase then (if f.unicode then chars.foldCase else chars.foldAsciiCase) else chars

/-- Admits a set of characters; without the Unicode flag it must be ASCII. -/
def admit? (f : Flags) (chars : CharSet) : Option CharSet :=
  if f.unicode || chars.isAscii then some chars else none

end Flags

def Shorthand.set (unicode : Bool) : Shorthand → CharSet
  | .digit => if unicode then Unicode.digit else Unicode.asciiDigit
  | .space => if unicode then Unicode.space else Unicode.asciiSpace
  | .word => if unicode then Unicode.word else Unicode.asciiWord

def PropertyQuery.meaning? (f : Flags) (query : PropertyQuery) (negated : Bool) : Option CharSet :=
  if f.unicode then query.set?.bind fun chars => f.negate? (f.fold chars) negated else none

def Bracket.meaning? (f : Flags) : Bracket → Option CharSet
  | .nothing => some .empty
  | .range lo hi => f.admit? (.range lo hi)
  | .shorthand kind negated => f.negate? (kind.set f.unicode) negated
  | .property query negated => query.meaning? f negated
  | .posix kind negated => f.negate? (f.fold kind.set) negated
  | .nested negated inside => (inside.meaning? f).bind fun chars => f.negate? (f.fold chars) negated
  | .join first rest => do
      let chars ← first.meaning? f
      let more ← rest.meaning? f
      return chars.union more
  | .op kind left right => do
      let chars ← left.meaning? f
      let others ← right.meaning? f
      match kind with
      | .inter => return (f.fold chars).inter (f.fold others)
      | .diff => return (f.fold chars).diff (f.fold others)
      | .symmDiff => return (f.fold chars).symmDiff (f.fold others)

def Assertion.meaning (f : Flags) : Assertion → Look
  | .lineStart => if f.multiLine then .lineStart f.crlf else .textStart
  | .lineEnd => if f.multiLine then .lineEnd f.crlf else .textEnd
  | .textStart => .textStart
  | .textEnd => .textEnd
  | .word .boundary => .wordBoundary f.unicode
  | .word .interior => .wordInterior f.unicode
  | .word .wordStart => .wordStart f.unicode
  | .word .wordEnd => .wordEnd f.unicode
  | .word .startHalf => .wordStartHalf f.unicode
  | .word .endHalf => .wordEndHalf f.unicode

def Flags.ofSet (f : Flags) (chars : CharSet) : Pattern := .ofSet chars !f.unicode

def Flags.literal (f : Flags) (c : Char) : Pattern :=
  if f.ignoreCase then
    f.ofSet (if f.unicode then .ofChars (Unicode.folded c) else (CharSet.single c).foldAsciiCase)
  else .literal [c]

def Flags.lineEnds (f : Flags) : CharSet :=
  if f.dotNewline then .empty else if f.crlf then .ofChars ['\n', '\r'] else .single '\n'

def Atom.meaning? (f : Flags) : Atom → Option Pattern
  | .literal c asByte => if asByte && !f.unicode && 0x80 ≤ c.toNat then none else some (f.literal c)
  | .dot => if f.unicode then some (f.ofSet f.lineEnds.complement) else none
  | .assertion kind => some (.look (kind.meaning f))
  | .shorthand kind negated => (f.negate? (kind.set f.unicode) negated).map f.ofSet
  | .property query negated => (query.meaning? f negated).map f.ofSet
  | .bracket negated inside =>
      (inside.meaning? f).bind fun chars => (f.negate? (f.fold chars) negated).map f.ofSet

/-- A pattern, or the parts of a sequence, or the branches of a choice, not yet put together. -/
inductive Piece
  | whole (p : Pattern)
  | parts (ps : List Pattern)
  | branches (ps : List Pattern)

namespace Piece

def pattern : Piece → Pattern
  | .whole p => p
  | .parts ps => .sequenceAll ps
  | .branches ps => .choose ps

def asParts : Piece → List Pattern
  | .parts ps => ps
  | piece => [piece.pattern]

def asBranches : Piece → List Pattern
  | .branches ps => ps
  | piece => [piece.pattern]

end Piece

structure Scope where
  flags : Flags
  nextGroup : Nat

namespace Tree

/-- The meaning of a written pattern in a scope, and the scope behind it. -/
def piece? (scope : Scope) : Tree → Option (Piece × Scope)
  | .nothing => some (.whole .nothing, scope)
  | .atom a => (a.meaning? scope.flags).map fun p => (.whole p, scope)
  | .flags change => some (.whole .nothing, { scope with flags := scope.flags.change change })
  | .group (.capture name) body => do
      let (piece, behind) ← body.piece? { scope with nextGroup := scope.nextGroup + 1 }
      return (.whole (.group scope.nextGroup name piece.pattern),
        { behind with flags := scope.flags })
  | .group (.plain change) body => do
      let (piece, behind) ← body.piece? { scope with flags := scope.flags.change change }
      return (.whole piece.pattern, { behind with flags := scope.flags })
  | .repetition least most greedy body => do
      let (piece, behind) ← body.piece? scope
      return (.whole (.repeated least most (greedy != behind.flags.swapGreed) piece.pattern),
        behind)
  | .sequence first rest => do
      let (part, between) ← first.piece? scope
      let (more, behind) ← rest.piece? between
      return (.parts (part.pattern :: more.asParts), behind)
  | .choice first rest => do
      let (branch, between) ← first.piece? scope
      let (more, behind) ← rest.piece? between
      return (.branches (branch.pattern :: more.asBranches), behind)

/-- The pattern that a written pattern means under flags; its groups are numbered from 1. -/
def meaning? (flags : Flags) (tree : Tree) : Option Pattern :=
  (tree.piece? ⟨flags, 1⟩).map fun (piece, _) => piece.pattern

end Tree

def Pattern.read? (flags : Flags) (text : List Char) : Option Pattern :=
  (Tree.read? text).bind (Tree.meaning? flags)

end ModalLexer
