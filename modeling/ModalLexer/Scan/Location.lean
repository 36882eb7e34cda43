import ModalLexer.Rule.Basic
import ModalLexer.Scan.Error
import ModalLexer.Text.Lines
import ModalLexer.Text.Spot

/-! # Locations and checkpoints

Lines and columns are numbers of 64 bits, and sums of them wrap. -/
set_option autoImplicit false
namespace ModalLexer

instance uint64OfNat : Coe Nat UInt64 := ⟨.ofNat⟩

instance natOfUInt64 : Coe UInt64 Nat := ⟨UInt64.toNat⟩

/-- A line and a column, both counted from 1; columns count characters. -/
structure Location where
  line : UInt64
  col : UInt64
deriving DecidableEq

namespace Location

def start : Location := ⟨1, 1⟩

def before (a b : Location) : Bool := a.line < b.line || (a.line = b.line && a.col < b.col)

def notAfter (a b : Location) : Bool := a.line < b.line || (a.line = b.line && a.col ≤ b.col)

/-- The location behind a text that starts here, and the line breaks it counts as. -/
def advance (l : Location) (text : List Char) : LineBreaks → Location × Nat
  | .none => (⟨l.line, l.col + (text.length : UInt64)⟩, 0)
  | .fixed n => (⟨l.line + n, 1⟩, n)
  | .scan =>
      match Lines.breakCount text with
      | 0 => (⟨l.line, l.col + (text.length : UInt64)⟩, 0)
      | n + 1 => (⟨l.line + (n + 1 : Nat), (Lines.tail text).length + 1⟩, n + 1)

def text (l : Location) : String := s!"{l.line}:{l.col}"

end Location

structure Checkpoint where
  line : UInt64
  col : UInt64
  offset : Nat
deriving DecidableEq

namespace Checkpoint

def start : Checkpoint := ⟨1, 1, 0⟩

def location (c : Checkpoint) : Location := ⟨c.line, c.col⟩

def ofLocation (l : Location) (offset : Nat) : Checkpoint := ⟨l.line, l.col, offset⟩

def spot (c : Checkpoint) (text : List Char) : Except ScanError Spot :=
  if c.line = 0 ∨ c.col = 0 then .error (.invalidCheckpoint c.offset c.line c.col .beforeStart)
  else if byteLength text < c.offset then
    .error (.invalidCheckpoint c.offset c.line c.col .pastEnd)
  else
    match Spot.at? text c.offset with
    | some s => .ok s
    | none => .error (.invalidCheckpoint c.offset c.line c.col .insideCharacter)

end Checkpoint

end ModalLexer
