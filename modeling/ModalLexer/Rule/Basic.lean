import ModalLexer.Rule.Source
import ModalLexer.Rule.Value

/-! # Rules

A rule has a name, which its tokens bear, one source or several variants to match, and options
that say what a match does. -/
set_option autoImplicit false
namespace ModalLexer

/-- How a match moves the line counter. -/
inductive LineBreaks
  | none
  | scan
  | fixed (n : UInt64)
deriving DecidableEq

/-- What a match does to the active mode. -/
inductive Transition
  | none
  | switchTo (mode : String)
  | push (mode : String)
  | pop
deriving DecidableEq

structure Options (σ : Type) where
  /-- A match is consumed without a token. -/
  discard : Bool := false
  /-- A match gives an error token, and scanning stops. -/
  error : Bool := false
  /-- A match must end at the edge of a word. -/
  wordBound : Bool := false
  lineBreaks : LineBreaks := .none
  transition : Transition := .none
  value : Option (ValueFn σ) := Option.none

structure Rule (σ : Type) where
  name : String
  variants : List Source
  options : Options σ

namespace Rule

variable {σ : Type}

def ofSource (name : String) (source : Source) : Rule σ := ⟨name, [source], {}⟩

def ofVariants (name : String) (variants : List Source) : Rule σ := ⟨name, variants, {}⟩

def literal (name text : String) : Rule σ := ofSource name (.literal text)

def regex (name pattern : String) : Rule σ := ofSource name (.regex pattern)

/-- The pattern of a run of word characters, or of anything else. -/
def catchAllPattern : String := "\\w+|\\W+"

def discard (r : Rule σ) : Rule σ := { r with options := { r.options with discard := true } }

def error (r : Rule σ) : Rule σ := { r with options := { r.options with error := true } }

/-- An error rule that matches whatever is left. -/
def catchAll (name : String) : Rule σ := (regex name catchAllPattern).error

def wordBound (r : Rule σ) : Rule σ := { r with options := { r.options with wordBound := true } }

/-- Counts each match as `n` line breaks. -/
def lineBreaks (n : UInt64) (r : Rule σ) : Rule σ :=
  { r with options := { r.options with lineBreaks := if n = 0 then .none else .fixed n } }

/-- Counts the line breaks in the text of each match. -/
def countLineBreaks (r : Rule σ) : Rule σ :=
  { r with options := { r.options with lineBreaks := .scan } }

def transition (t : Transition) (r : Rule σ) : Rule σ :=
  { r with options := { r.options with transition := t } }

def switchTo (mode : String) (r : Rule σ) : Rule σ := r.transition (.switchTo mode)

def push (mode : String) (r : Rule σ) : Rule σ := r.transition (.push mode)

def pop (r : Rule σ) : Rule σ := r.transition .pop

def value (f : ValueFn σ) (r : Rule σ) : Rule σ :=
  { r with options := { r.options with value := some f } }

def withOptions (options : Options σ) (r : Rule σ) : Rule σ := { r with options }

end Rule

end ModalLexer
