import ModalLexer.Mode.Error
import ModalLexer.Mode.Slot
import ModalLexer.Pattern.Meaning
import ModalLexer.Rule.Basic

/-! # Compiled modes

The rules of a mode become one pattern, in which every variant is an alternative in a capture
group of its own, and a table that tells by the groups of a match which rule fired.  Each
variant is first read by itself to learn its groups; the number of groups in the joined pattern
must then be the sum of what was found.

Patterns are read by an engine.  `Pattern.read?` reads all of them, and is the one that is meant if
none is given; another may refuse some, as those that take too much room. -/
set_option autoImplicit false
namespace ModalLexer

/-- What a pattern means with some flags, unless it is refused. -/
abbrev Engine := Flags → List Char → Option Pattern

/-- What a match does to the active mode; modes are named by their numbers. -/
inductive Jump
  | stay
  | switchTo (mode : Nat)
  | push (mode : Nat)
  | pop
deriving DecidableEq

structure Entry (σ : Type) where
  kind : String
  slots : List Slot
  discard : Bool
  error : Bool
  lineBreaks : LineBreaks
  jump : Jump
  value : Option (ValueFn σ)

def Entry.transitions {σ : Type} (e : Entry σ) : Bool := e.jump != .stay

structure CompiledMode (σ : Type) where
  name : String
  written : String
  pattern : Pattern
  entries : List (Entry σ)

/-- Some alternatives of the joined pattern, and the slots behind which the next ones come. -/
structure Layout (α : Type) where
  result : α
  alternatives : List (List Char)
  nextSlot : Nat

namespace CompiledMode

variable {σ : Type}

def wrap (wordBound : Bool) (fragment : List Char) : List Char :=
  if wordBound then "((?:".toList ++ fragment ++ ")\\b)".toList
  else '(' :: fragment ++ [')']

def layVariant (rule : Rule σ) (nextSlot : Nat) (source : Source)
    (engine : Engine := Pattern.read?) : Except ConfigError (Layout Slot) :=
  match source.fragment? with
  | none => .error (.malformedRule rule.name .noAlternative)
  | some fragment =>
      match engine .standard fragment with
      | none => .error (.invalidPattern rule.name)
      | some pattern =>
          let slot := Slot.ofGroups nextSlot pattern.groups
          .ok ⟨slot, [wrap rule.options.wordBound fragment], slot.stop⟩

def layVariants (rule : Rule σ) (nextSlot : Nat) (sources : List Source)
    (engine : Engine := Pattern.read?) : Except ConfigError (Layout (List Slot)) :=
  match sources with
  | [] => .ok ⟨[], [], nextSlot⟩
  | source :: rest => do
      let first ← layVariant rule nextSlot source engine
      let more ← layVariants rule first.nextSlot rest engine
      return ⟨first.result :: more.result, first.alternatives ++ more.alternatives, more.nextSlot⟩

def jump (resolve : String → Option Nat) (rule : Rule σ) : Except ConfigError Jump :=
  match rule.options.transition with
  | .none => .ok .stay
  | .pop => .ok .pop
  | .switchTo mode =>
      match resolve mode with
      | some number => .ok (.switchTo number)
      | none => .error (.unknownMode rule.name mode)
  | .push mode =>
      match resolve mode with
      | some number => .ok (.push number)
      | none => .error (.unknownMode rule.name mode)

def layRule (resolve : String → Option Nat) (nextSlot : Nat) (rule : Rule σ)
    (engine : Engine := Pattern.read?) : Except ConfigError (Layout (Entry σ)) :=
  if rule.variants.isEmpty then .error (.malformedRule rule.name .noPattern)
  else do
    let laid ← layVariants rule nextSlot rule.variants engine
    let jump ← jump resolve rule
    let options := rule.options
    return ⟨⟨rule.name, laid.result, options.discard, options.error, options.lineBreaks, jump,
      options.value⟩, laid.alternatives, laid.nextSlot⟩

/-- Lays out the rules of a mode in order; `seen` are the names used before. -/
def layRules (mode : String) (resolve : String → Option Nat) (seen : List String)
    (nextSlot : Nat) (rules : List (Rule σ)) (engine : Engine := Pattern.read?) :
    Except ConfigError (Layout (List (Entry σ))) :=
  match rules with
  | [] => .ok ⟨[], [], nextSlot⟩
  | rule :: rest =>
      if seen.contains rule.name then .error (.duplicateRule rule.name mode)
      else do
        let first ← layRule resolve nextSlot rule engine
        let more ← layRules mode resolve (rule.name :: seen) first.nextSlot rest engine
        return ⟨first.result :: more.result, first.alternatives ++ more.alternatives,
          more.nextSlot⟩

def join (mode : String) (laid : Layout (List (Entry σ))) (engine : Engine := Pattern.read?) :
    Except ConfigError (CompiledMode σ) :=
  let written := joinBars laid.alternatives
  match engine .multiLineCrlf written with
  | none => .error (.build mode)
  | some pattern =>
      let found := pattern.groups.length + 1
      if found = laid.nextSlot then .ok ⟨mode, .ofList written, pattern, laid.result⟩
      else .error (.slotMismatch mode laid.nextSlot found)

/-- Compiles the rules of a mode, of which there must be one.  `resolve` numbers the modes. -/
def compile (mode : String) (rules : List (Rule σ)) (resolve : String → Option Nat)
    (engine : Engine := Pattern.read?) : Except ConfigError (CompiledMode σ) :=
  if rules.isEmpty then .error (.emptyMode mode)
  else (layRules mode resolve [] 1 rules engine).bind (join mode · engine)

end CompiledMode

structure Dispatch (σ : Type) where
  entry : Entry σ
  variant : Nat
  slot : Slot
  extent : Extent

namespace CompiledMode

variable {σ : Type}

def dispatchSlot? (p : Path) (variant : Nat) : List Slot → Option (Nat × Slot × Extent)
  | [] => none
  | slot :: rest =>
      match p.group? slot.start with
      | some extent => some (variant, slot, extent)
      | none => dispatchSlot? p (variant + 1) rest

/-- The first rule, and the first variant of it, that took part in a match. -/
def dispatch? (p : Path) : List (Entry σ) → Option (Dispatch σ)
  | [] => none
  | entry :: rest =>
      match dispatchSlot? p 0 entry.slots with
      | some (variant, slot, extent) => some ⟨entry, variant, slot, extent⟩
      | none => dispatch? p rest

end CompiledMode

end ModalLexer
