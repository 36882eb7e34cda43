import ModalLexer.Pattern.Match
import ModalLexer.Rule.Value

/-! # Slots

In the pattern of a mode every variant of a rule is wrapped in a capture group, and the groups
inside the variant come right behind it.  The slot of a variant is that stretch of group
numbers. -/
set_option autoImplicit false
namespace ModalLexer

/-- The capture groups of one variant: the number of the group around it, how many there are with
that one, and the named ones with their numbers counted from it. -/
structure Slot where
  start : Nat
  width : Nat
  names : List (String × Nat)
deriving DecidableEq

namespace Slot

/-- The slot that the groups of a pattern by itself call for.  A group that was dropped still has
a number if one behind it is left. -/
def ofGroups (start : Nat) (groups : List (Nat × Option String)) : Slot where
  start := start
  width := (groups.map (·.1)).foldl max 0 + 1
  names := groups.filterMap fun (index, name) => name.map fun n => (n, index)

def stop (s : Slot) : Nat := s.start + s.width

def text? (s : Slot) (p : Path) (relative : Nat) : Option String :=
  (p.group? (s.start + relative)).map fun extent => .ofList extent.text

def groups (s : Slot) (p : Path) : Groups :=
  if s.names.isEmpty then
    .positional ((List.range (s.width - 1)).map fun k => s.text? p (k + 1))
  else .named (s.names.map fun (name, relative) => (name, s.text? p relative))

end Slot

end ModalLexer
