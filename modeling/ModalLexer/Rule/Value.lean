/-! # Values of tokens, and the groups they are made from -/
set_option autoImplicit false
namespace ModalLexer

/-- The value of a token.  A number in floating point is kept as its 64 bits; the keys of a map
ascend. -/
inductive Value
  | text (text : String)
  | integer (n : Int)
  | float (bits : UInt64)
  | bool (b : Bool)
  | list (items : List Value)
  | map (entries : List (String × Value))
  | nothing

/-- Puts an entry into an ascending list, in the place of one with the same key. -/
def insertEntry {α : Type} (key : String) (a : α) : List (String × α) → List (String × α)
  | [] => [(key, a)]
  | (k, b) :: rest =>
      if key < k then (key, a) :: (k, b) :: rest
      else if key = k then (key, a) :: rest
      else (k, b) :: insertEntry key a rest

namespace Value

def ofEntries (entries : List (String × Value)) : Value :=
  .map (entries.foldl (fun sorted (key, value) => insertEntry key value sorted) [])

def ofText? : Option String → Value
  | some s => .text s
  | none => .nothing

end Value

/-- The groups of a match: by position, or by name if the pattern names any.  A group that took no
part has no text. -/
inductive Groups
  | positional (texts : List (Option String))
  | named (entries : List (String × Option String))

namespace Groups

def get? (g : Groups) (i : Nat) : Option String :=
  match g with
  | .positional texts => (texts[i]?).join
  | .named _ => none

def name? (g : Groups) (name : String) : Option String :=
  match g with
  | .positional _ => none
  | .named entries => (entries.lookup name).join

def size (g : Groups) : Nat :=
  match g with
  | .positional texts => texts.length
  | .named entries => entries.length

def isEmpty (g : Groups) : Bool := g.size = 0

def toValue (g : Groups) : Value :=
  match g with
  | .positional texts => .list (texts.map Value.ofText?)
  | .named entries => .ofEntries (entries.map fun (name, text) => (name, Value.ofText? text))

end Groups

/-- A function that makes the value of a token from its text and groups.  It may read and change a
state of type `σ` that outlives the call. -/
abbrev ValueFn (σ : Type) := String → Groups → σ → Value × σ

def ValueFn.pure {σ : Type} (f : String → Groups → Value) : ValueFn σ :=
  fun text groups state => (f text groups, state)

end ModalLexer
