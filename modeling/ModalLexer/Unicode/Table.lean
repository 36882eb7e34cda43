import ModalLexer.CharSet.Written

/-! # Named sets of characters

A table lists sets under the names by which a pattern may call them.  Names are compared
loosely: case, blanks, underscores, hyphens and a leading `is` do not count. -/
set_option autoImplicit false
namespace ModalLexer.Unicode

structure Named where
  names : List String
  text : String

def find? (table : List Named) (name : String) : Option CharSet :=
  (table.find? (·.names.contains name)).map fun entry => .ofText entry.text

def dropIs : List Char → Option (List Char)
  | i :: s :: rest => if i.toLower = 'i' ∧ s.toLower = 's' then some rest else none
  | _ => none

/-- What of a name counts: its ASCII characters in lower case, without separators. -/
def significant (cs : List Char) : List Char :=
  (cs.filter fun c => c.toNat < 0x80 && !(c = ' ' || c = '_' || c = '-')).map Char.toLower

/-- The loose form of a name.  A leading `is` is dropped, except from `isc`, where what is left
would be mistaken for another name. -/
def looseName (name : List Char) : String :=
  match dropIs name with
  | some rest => if significant rest = ['c'] then "isc" else .ofList (significant rest)
  | none => .ofList (significant name)

end ModalLexer.Unicode
