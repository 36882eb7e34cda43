import ModalLexer.Unicode.Folding
import ModalLexer.Unicode.Word

/-! # Patterns

A `Pattern` says what is matched, with all flags resolved.  The functions that build one keep it
in a simple form: neighbouring characters are one literal, a choice between single characters is
a set, a choice whose branches begin alike begins with what they share, and a repetition that
can never match more than once is none.  A set written without the Unicode flag is one of bytes:
it has the same members, but does not begin alike with the set of characters.  What a repetition of zero rounds held is gone, its
groups with it, so `groups` lists the groups that are left. -/
set_option autoImplicit false
namespace ModalLexer

inductive Look
  | textStart
  | textEnd
  | lineStart (crlf : Bool)
  | lineEnd (crlf : Bool)
  | wordBoundary (unicode : Bool)
  | wordInterior (unicode : Bool)
  | wordStart (unicode : Bool)
  | wordEnd (unicode : Bool)
  | wordStartHalf (unicode : Bool)
  | wordEndHalf (unicode : Bool)
deriving DecidableEq

/-- A pattern.  A sequence or a choice of more than two parts leans to the right. -/
inductive Pattern
  | nothing
  | literal (chars : List Char)
  | set (chars : CharSet) (ofBytes : Bool)
  | look (look : Look)
  | group (index : Nat) (name : Option String) (body : Pattern)
  | repetition (least : Nat) (most : Option Nat) (greedy : Bool) (body : Pattern)
  | sequence (first rest : Pattern)
  | choice (first rest : Pattern)
deriving DecidableEq

namespace Pattern

def never : Pattern := .set .empty false

/-- A lower bound on the length of a match, where one is known. -/
def leastLength? : Pattern → Option Nat
  | .nothing => some 0
  | .literal chars => some chars.length
  | .set chars _ => if chars.isEmpty then none else some 1
  | .look _ => some 0
  | .group _ _ body => body.leastLength?
  | .repetition least _ _ body => body.leastLength?.map (· * least)
  | .sequence first rest =>
      match first.leastLength?, rest.leastLength? with
      | some m, some n => some (m + n)
      | _, _ => none
  | .choice first rest =>
      match first.leastLength?, rest.leastLength? with
      | some m, some n => some (min m n)
      | _, _ => none

/-- Whether every match is known to be empty. -/
def onlyEmpty : Pattern → Bool
  | .nothing => true
  | .literal chars => chars.isEmpty
  | .set _ _ => false
  | .look _ => true
  | .group _ _ body => body.onlyEmpty
  | .repetition _ most _ body => most = some 0 || (most.isSome && body.onlyEmpty)
  | .sequence first rest => first.onlyEmpty && rest.onlyEmpty
  | .choice first rest => first.onlyEmpty && rest.onlyEmpty

def consumes (p : Pattern) : Bool := p.leastLength?.any (0 < ·)

def groups : Pattern → List (Nat × Option String)
  | .nothing => []
  | .literal _ => []
  | .set _ _ => []
  | .look _ => []
  | .group index name body => (index, name) :: body.groups
  | .repetition _ _ _ body => body.groups
  | .sequence first rest => first.groups ++ rest.groups
  | .choice first rest => first.groups ++ rest.groups

def parts : Pattern → List Pattern
  | .nothing => []
  | .sequence first rest => first :: rest.parts
  | p => [p]

def branches : Pattern → List Pattern
  | .choice first rest => first :: rest.branches
  | p => [p]

def ofSet (chars : CharSet) (ofBytes : Bool := false) : Pattern :=
  match chars.only? with
  | some c => .literal [c]
  | none => .set chars (ofBytes && !chars.isEmpty)

def consPart (part : Pattern) (parts : List Pattern) : List Pattern :=
  match part, parts with
  | .literal front, .literal back :: rest => .literal (front ++ back) :: rest
  | _, _ => part :: parts

def foldSequence : List Pattern → Pattern
  | [] => .nothing
  | [p] => p
  | p :: rest => .sequence p (foldSequence rest)

def foldChoice : List Pattern → Pattern
  | [] => never
  | [p] => p
  | p :: rest => .choice p (foldChoice rest)

def sequenceAll (ps : List Pattern) : Pattern :=
  foldSequence ((ps.flatMap parts).foldr consPart [])

def onlyChar? : Pattern → Option Char
  | .literal [c] => some c
  | _ => none

def set? : Pattern → Option CharSet
  | .set chars _ => some chars
  | _ => none

/-- A choice between branches that do not begin alike. -/
def chooseApart (branches : List Pattern) : Pattern :=
  match branches with
  | [p] => p
  | _ =>
      match branches.mapM onlyChar? with
      | some chars => ofSet (.ofChars chars)
      | none =>
          match branches.mapM set? with
          | some sets => ofSet (.unions sets)
          | none => foldChoice branches

def sharedParts : List Pattern → List Pattern → Nat
  | p :: ps, q :: qs => if p = q then sharedParts ps qs + 1 else 0
  | _, _ => 0

def sequenceParts? : Pattern → Option (List Pattern)
  | .sequence first rest => some (first :: rest.parts)
  | _ => none

/-- What all branches begin with, if each is a sequence, and what each goes on with. -/
def sharedStart? (branches : List Pattern) : Option (List Pattern × List Pattern) :=
  match branches.mapM sequenceParts? with
  | none => none
  | some [] => none
  | some [_] => none
  | some (first :: others) =>
      let shared := others.foldl (fun n other => min n (sharedParts first other)) first.length
      if shared = 0 then none
      else some (first.take shared,
        (first :: others).map fun parts => sequenceAll (parts.drop shared))

/-- The choice between some patterns, the first one preferred. -/
def choose (ps : List Pattern) : Pattern :=
  let all := ps.flatMap branches
  match sharedStart? all with
  | some (start, ends) => sequenceAll (start ++ [chooseApart (ends.flatMap branches)])
  | none => chooseApart all

/-- A repetition.  A body that matches only the empty text is matched at most once. -/
def repeated (least : Nat) (most : Option Nat) (greedy : Bool) (body : Pattern) : Pattern :=
  let least' := if body.onlyEmpty then min least 1 else least
  let most' := if body.onlyEmpty then some (min (most.getD 1) 1) else most
  if most' = some 0 then .nothing
  else if least' = 1 ∧ most' = some 1 then body
  else .repetition least' most' greedy body

end Pattern

end ModalLexer
