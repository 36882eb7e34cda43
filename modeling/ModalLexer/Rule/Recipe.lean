import ModalLexer.Rule.Value
import ModalLexer.Text.Spot
import ModalLexer.Text.Numeral

/-! # Recipes for values

A small language of value functions.  Its one effect is a counter that `tick` moves on, which
shows how often, and in which order, values are made. -/
set_option autoImplicit false
namespace ModalLexer

inductive Recipe
  | raw
  | byteCount
  | integer
  | integerOf (text : Recipe) (base : Nat)
  | group (i : Nat)
  | groupNamed (name : String)
  | groupCount
  | groupless
  | groups
  | tick
  | constant (value : Value)
  | list (items : List Recipe)

namespace Recipe

def integerValue (base : Nat) (text : String) : Value :=
  match wordOfText? base text.toList with
  | some n => .integer n
  | none => .nothing

mutual

/-- The value of a recipe and the counter behind it. -/
def eval (text : String) (groups : Groups) : Recipe → Nat → Value × Nat
  | .raw, n => (.text text, n)
  | .byteCount, n => (.integer (byteLength text.toList), n)
  | .integer, n => (integerValue 10 text, n)
  | .integerOf inner base, n =>
      match inner.eval text groups n with
      | (.text digits, after) => (integerValue base digits, after)
      | (_, after) => (.nothing, after)
  | .group i, n => (.ofText? (groups.get? i), n)
  | .groupNamed name, n => (.ofText? (groups.name? name), n)
  | .groupCount, n => (.integer groups.size, n)
  | .groupless, n => (.bool groups.isEmpty, n)
  | .groups, n => (groups.toValue, n)
  | .tick, n => (.integer (n + 1), n + 1)
  | .constant value, n => (value, n)
  | .list items, n =>
      let (values, after) := evalAll text groups items n
      (.list values, after)

def evalAll (text : String) (groups : Groups) : List Recipe → Nat → List Value × Nat
  | [], n => ([], n)
  | item :: rest, n =>
      let (value, between) := item.eval text groups n
      let (values, after) := evalAll text groups rest between
      (value :: values, after)

end

def toFn (r : Recipe) : ValueFn Nat := fun text groups n => r.eval text groups n

end Recipe

end ModalLexer
