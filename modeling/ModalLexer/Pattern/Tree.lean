import ModalLexer.Pattern.Reader

/-! # Patterns as written

A `Tree` is a written pattern with its grouping made plain.  `Tree.ofLexemes?` builds it with one
open frame for each open parenthesis, so the lexemes of a balanced piece of text act on the
frame around them as one item (`Builder.run?_append`).  `Tree.read?` reads a whole text; it refuses
a name given to two groups and nesting beyond `deepest`. -/
set_option autoImplicit false
namespace ModalLexer

/-- A written pattern.  A sequence or a choice of more than two parts leans to the right. -/
inductive Tree
  | nothing
  | atom (a : Atom)
  | flags (change : FlagChange)
  | group (grouping : Grouping) (body : Tree)
  | repetition (least : Nat) (most : Option Nat) (greedy : Bool) (body : Tree)
  | sequence (first rest : Tree)
  | choice (first rest : Tree)
deriving DecidableEq

/-- Joins the parts of a sequence, the last one first. -/
def sequenceOf : List Tree → Tree
  | [] => .nothing
  | last :: before => before.foldl (fun joined part => .sequence part joined) last

/-- Joins the branches of a choice, of which `last` is the last and the others come last first. -/
def choiceOf (last : Tree) (before : List Tree) : Tree :=
  before.foldl (fun joined branch => .choice branch joined) last

/-- What has been read of one group: the branches that ended, and the parts of the open one,
both with the last one first. -/
structure Frame where
  branches : List Tree
  parts : List Tree

namespace Frame

def fresh : Frame := ⟨[], []⟩

def push (f : Frame) (part : Tree) : Frame := { f with parts := part :: f.parts }

def endBranch (f : Frame) : Frame := ⟨sequenceOf f.parts :: f.branches, []⟩

def close (f : Frame) : Tree := choiceOf (sequenceOf f.parts) f.branches

def repeatable : Tree → Bool
  | .flags _ => false
  | _ => true

def repeatLast? (f : Frame) (least : Nat) (most : Option Nat) (greedy : Bool) : Option Frame :=
  match f.parts with
  | [] => none
  | last :: before =>
      if repeatable last then some { f with parts := .repetition least most greedy last :: before }
      else none

end Frame

/-- The innermost open frame, and around it the open groups with the frames outside them. -/
structure Builder where
  frame : Frame
  outside : List (Grouping × Frame)

namespace Builder

def fresh : Builder := ⟨.fresh, []⟩

def step? (b : Builder) : Lexeme → Option Builder
  | .atom a => some { b with frame := b.frame.push (.atom a) }
  | .flags change => some { b with frame := b.frame.push (.flags change) }
  | .opening grouping => some ⟨.fresh, (grouping, b.frame) :: b.outside⟩
  | .closing =>
      match b.outside with
      | [] => none
      | (grouping, frame) :: outside => some ⟨frame.push (.group grouping b.frame.close), outside⟩
  | .bar => some { b with frame := b.frame.endBranch }
  | .repetition least most greedy =>
      (b.frame.repeatLast? least most greedy).map fun frame => { b with frame }

def run? (b : Builder) (lexemes : List Lexeme) : Option Builder := lexemes.foldlM step? b

def finish? (b : Builder) : Option Tree := if b.outside.isEmpty then some b.frame.close else none

@[simp] theorem run?_nil (b : Builder) : b.run? [] = some b := rfl

@[simp] theorem run?_cons (b : Builder) (l : Lexeme) (ls : List Lexeme) :
    b.run? (l :: ls) = (b.step? l).bind (·.run? ls) := by
  simp [run?, List.foldlM_cons]

theorem run?_append (b : Builder) (front back : List Lexeme) :
    b.run? (front ++ back) = (b.run? front).bind (·.run? back) := by
  simp [run?, List.foldlM_append]

end Builder

namespace Tree

def ofLexemes? (lexemes : List Lexeme) : Option Tree :=
  (Builder.fresh.run? lexemes).bind Builder.finish?

/-- How deep the operators of a set are nested; the items of one union count once. -/
def bracketDepth : Bracket → Nat
  | .nothing => 0
  | .range _ _ => 0
  | .shorthand _ _ => 0
  | .property _ _ => 0
  | .posix _ _ => 0
  | .nested _ inside => bracketDepth inside + 1
  | .join first rest =>
      max (bracketDepth first + 1)
        (match rest with
          | .join _ _ => bracketDepth rest
          | _ => bracketDepth rest + 1)
  | .op _ left right => max (bracketDepth left) (bracketDepth right) + 1

def atomDepth : Atom → Nat
  | .bracket _ inside => bracketDepth inside + 1
  | _ => 0

/-- How deep a pattern is nested; the parts of one sequence, and the branches of one choice,
count once. -/
def depth : Tree → Nat
  | .nothing => 0
  | .atom a => atomDepth a
  | .flags _ => 0
  | .group _ body => body.depth + 1
  | .repetition _ _ _ body => body.depth + 1
  | .sequence first rest =>
      max (first.depth + 1)
        (match rest with
          | .sequence _ _ => rest.depth
          | _ => rest.depth + 1)
  | .choice first rest =>
      max (first.depth + 1)
        (match rest with
          | .choice _ _ => rest.depth
          | _ => rest.depth + 1)

def deepest : Nat := 250

def groupNames (lexemes : List Lexeme) : List String :=
  lexemes.filterMap fun
    | .opening (.capture name) => name
    | _ => none

def read? (text : List Char) : Option Tree := do
  let lexemes ← Reading.lexemes? text
  if (groupNames lexemes).Nodup then
    let tree ← ofLexemes? lexemes
    if tree.depth ≤ deepest then some tree else none
  else none

end Tree

end ModalLexer
