import ModalLexer.Pattern.Escape

/-! # Reading bracketed sets

The inside of a bracketed set is a list of items, combined by `&&`, `--` and `~~`, which bind
equally and to the left.  Sets may be nested, so the reader carries a bound on the depth, for
which the length of the text always suffices. -/
set_option autoImplicit false
namespace ModalLexer.Reading

def joinItems : List Bracket → Bracket
  | [] => .nothing
  | last :: before => before.foldl (fun joined item => .join item joined) last

/-- What has been read of a set: a left operand that waits for its right one, and the items read
since, the last one first. -/
structure SetSoFar where
  pending : Option (SetOp × Bracket)
  items : List Bracket

namespace SetSoFar

def push (s : SetSoFar) (item : Bracket) : SetSoFar := { s with items := item :: s.items }

def close (s : SetSoFar) : Bracket :=
  match s.pending with
  | none => joinItems s.items
  | some (op, left) => .op op left (joinItems s.items)

def operate (s : SetSoFar) (op : SetOp) : SetSoFar := ⟨some (op, s.close), []⟩

end SetSoFar

def posixOfName? (name : List Char) : Option Posix :=
  ([("alnum", .alnum), ("alpha", .alpha), ("ascii", .ascii), ("blank", .blank), ("cntrl", .cntrl),
    ("digit", .digit), ("graph", .graph), ("lower", .lower), ("print", .print), ("punct", .punct),
    ("space", .space), ("upper", .upper), ("word", .word), ("xdigit", .xdigit)] :
    List (String × Posix)).findSome? fun (spelling, kind) =>
      if spelling.toList = name then some kind else none

/-- Reads the rest of `[:name:]` behind its first bracket; anything else is left to be read as a
nested set. -/
def readPosix? (cs : List Char) : Option (Bracket × List Char) :=
  match cs with
  | ':' :: rest =>
      let (negated, nameFirst) := match rest with
        | '^' :: more => (true, more)
        | _ => (false, rest)
      match cutAt? ':' nameFirst with
      | some (name, ']' :: left) =>
          (posixOfName? name).map fun kind => (.posix kind negated, left)
      | _ => none
  | _ => none

def readItem? (verbose : Bool) : List Char → Option (Atom × List Char)
  | [] => none
  | '\\' :: rest => readEscape? verbose rest
  | c :: rest => some (.literal c false, rest)

def itemOfAtom? : Atom → Option Bracket
  | .literal c _ => some (.range c c)
  | .shorthand kind negated => some (.shorthand kind negated)
  | .property query negated => some (.property query negated)
  | .dot => none
  | .assertion _ => none
  | .bracket _ _ => none

def rangeOfAtoms? : Atom → Atom → Option Bracket
  | .literal lo _, .literal hi _ => if lo ≤ hi then some (.range lo hi) else none
  | _, _ => none

/-- Reads an item, and the other end of its range if it begins one. -/
def readRange? (verbose : Bool) (cs : List Char) : Option (Bracket × List Char) := do
  let (first, behind) ← readItem? verbose cs
  match skipBlank verbose behind with
  | [] => none
  | '-' :: rest =>
      if peekBlank verbose rest = some ']' ∨ peekBlank verbose rest = some '-' then
        return (← itemOfAtom? first, '-' :: rest)
      else
        match skipBlank verbose rest with
        | [] => none
        | endFirst =>
            let (last, left) ← readItem? verbose endFirst
            return (← rangeOfAtoms? first last, left)
  | left => return (← itemOfAtom? first, left)

/-- Reads how a set begins behind its bracket: whether it is negated, and the characters that
stand for themselves only here, namely hyphens, or a closing bracket in first place. -/
def openSet? (verbose : Bool) (cs : List Char) : Option (Bool × SetSoFar × List Char) :=
  let (negated, body) := match skipBlank verbose cs with
    | '^' :: rest => (true, rest)
    | rest => (false, rest)
  match collect verbose (· != '-') body with
  | ([], ']' :: left) => some (negated, ⟨none, [.range ']' ']']⟩, left)
  | (hyphens, left) => some (negated, ⟨none, hyphens.map fun c => .range c c⟩, left)

def readSet? (verbose : Bool) : Nat → SetSoFar → List Char → Option (Bracket × List Char)
  | 0, _, _ => none
  | fuel + 1, s, cs =>
      match skipBlank verbose cs with
      | [] => none
      | ']' :: left => some (s.close, left)
      | '[' :: inside =>
          match readPosix? inside with
          | some (item, left) => readSet? verbose fuel (s.push item) left
          | none => do
              let (negated, begun, body) ← openSet? verbose inside
              let (nested, left) ← readSet? verbose fuel begun body
              readSet? verbose fuel (s.push (.nested negated nested)) left
      | '&' :: '&' :: left => readSet? verbose fuel (s.operate .inter) left
      | '-' :: '-' :: left => readSet? verbose fuel (s.operate .diff) left
      | '~' :: '~' :: left => readSet? verbose fuel (s.operate .symmDiff) left
      | itemFirst => do
          let (item, left) ← readRange? verbose itemFirst
          readSet? verbose fuel (s.push item) left

def readBracket? (verbose : Bool) (cs : List Char) : Option (Atom × List Char) := do
  let (negated, begun, body) ← openSet? verbose cs
  let (inside, left) ← readSet? verbose (body.length + 1) begun body
  return (.bracket negated inside, left)

end ModalLexer.Reading
