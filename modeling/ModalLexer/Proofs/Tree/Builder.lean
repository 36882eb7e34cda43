import ModalLexer.Pattern.Tree
import ModalLexer.Proofs.Reading.Run

/-! # Building trees inside groups

A builder looks at no frame outside those its lexemes open and close (`Builder.run?_inside`), and
has as many groups open as the reader has (`Reads.depth_eq`).  The tree it builds has the capture
groups that were read, in the order of their parentheses (`Tree.captureNames_ofLexemes?`). -/
set_option autoImplicit false
namespace ModalLexer

def Lexeme.isCapture : Lexeme → Bool
  | .opening (.capture _) => true
  | _ => false

def captures (ls : List Lexeme) : Nat := ls.countP Lexeme.isCapture

@[simp] theorem captures_append (front back : List Lexeme) :
    captures (front ++ back) = captures front + captures back := List.countP_append

@[simp] theorem captures_nil : captures [] = 0 := rfl

theorem captures_cons (l : Lexeme) (ls : List Lexeme) :
    captures (l :: ls) = captures ls + if l.isCapture then 1 else 0 := List.countP_cons

/-- The capture group that a lexeme opens, if it opens one, with the name it is given. -/
def Lexeme.captureName? : Lexeme → Option (Option String)
  | .opening (.capture name) => some name
  | _ => none

def captureNames (ls : List Lexeme) : List (Option String) := ls.filterMap Lexeme.captureName?

theorem captureNames_cons (l : Lexeme) (ls : List Lexeme) :
    captureNames (l :: ls) = l.captureName?.toList ++ captureNames ls := by
  rw [captureNames, List.filterMap_cons]
  cases l.captureName? <;> rfl

theorem length_captureNames (ls : List Lexeme) : (captureNames ls).length = captures ls := by
  have each (l : Lexeme) : l.captureName?.toList.length = if l.isCapture then 1 else 0 := by
    cases l with
    | opening grouping => cases grouping <;> rfl
    | _ => rfl
  induction ls with
  | nil => rfl
  | cons l ls ih => rw [captureNames_cons, List.length_append, each, ih, captures_cons, Nat.add_comm]

namespace Builder

variable {b c : Builder} {l : Lexeme} {ls : List Lexeme}

def inside (b : Builder) (outer : List (Grouping × Frame)) : Builder :=
  ⟨b.frame, b.outside ++ outer⟩

theorem step?_inside (stepped : b.step? l = some c) (outer : List (Grouping × Frame)) :
    (b.inside outer).step? l = some (c.inside outer) := by
  obtain ⟨frame, outside⟩ := b
  cases l with
  | atom a => obtain rfl := Option.some.inj stepped; rfl
  | flags change => obtain rfl := Option.some.inj stepped; rfl
  | opening grouping => obtain rfl := Option.some.inj stepped; rfl
  | closing =>
      cases outside with
      | nil => cases stepped
      | cons open_ outside => obtain rfl := Option.some.inj stepped; rfl
  | bar => obtain rfl := Option.some.inj stepped; rfl
  | repetition least most greedy =>
      obtain ⟨repeated, done, rfl⟩ := Option.map_eq_some_iff.1 stepped
      exact Option.map_eq_some_iff.2 ⟨repeated, done, rfl⟩

/-- A builder looks at no group outside those its lexemes open and close. -/
theorem run?_inside (ran : b.run? ls = some c) (outer : List (Grouping × Frame)) :
    (b.inside outer).run? ls = some (c.inside outer) := by
  induction ls generalizing b with
  | nil => obtain rfl := Option.some.inj ran; rfl
  | cons l ls ih =>
      rw [run?_cons] at ran ⊢
      obtain ⟨between, stepped, later⟩ := Option.bind_eq_some_iff.1 ran
      rw [step?_inside stepped outer]
      exact ih later

theorem step?_depth_eq {v w : Reading.Verbosity} (stepped : b.step? l = some c)
    (after : v.after? l = some w) (depth : b.outside.length = v.outside.length) :
    c.outside.length = w.outside.length := by
  obtain ⟨frame, outside⟩ := b
  obtain ⟨here, before⟩ := v
  cases l with
  | atom a =>
      obtain rfl := Option.some.inj stepped
      obtain rfl := Option.some.inj after
      exact depth
  | flags change =>
      obtain rfl := Option.some.inj stepped
      obtain rfl := Option.some.inj after
      exact depth
  | opening grouping =>
      obtain rfl := Option.some.inj stepped
      cases grouping <;>
        (obtain rfl := Option.some.inj after; exact congrArg (· + 1) depth)
  | closing =>
      cases outside with
      | nil => cases stepped
      | cons open_ outside =>
          cases before with
          | nil => cases after
          | cons here' before =>
              obtain rfl := Option.some.inj stepped
              obtain rfl := Option.some.inj after
              exact Nat.succ.inj depth
  | bar =>
      obtain rfl := Option.some.inj stepped
      obtain rfl := Option.some.inj after
      exact depth
  | repetition least most greedy =>
      obtain ⟨repeated, _, rfl⟩ := Option.map_eq_some_iff.1 stepped
      obtain rfl := Option.some.inj after
      exact depth

end Builder

/-- A builder has as many groups open as the reader. -/
theorem Reading.Reads.depth_eq {v w : Verbosity} {cs left : List Char} {ls : List Lexeme}
    {b c : Builder} (reads : Reads v cs ls w left) (ran : b.run? ls = some c)
    (depth : b.outside.length = v.outside.length) : c.outside.length = w.outside.length := by
  induction reads generalizing b with
  | done v cs =>
      obtain rfl := Option.some.inj ran
      exact depth
  | step first after rest ih =>
      rw [Builder.run?_cons] at ran
      obtain ⟨between, stepped, later⟩ := Option.bind_eq_some_iff.1 ran
      exact ih later (Builder.step?_depth_eq stepped after depth)

theorem Tree.ofLexemes?_eq_some_iff {ls : List Lexeme} {tree : Tree} :
    Tree.ofLexemes? ls = some tree ↔
      ∃ frame, Builder.fresh.run? ls = some ⟨frame, []⟩ ∧ frame.close = tree := by
  constructor
  · intro built
    obtain ⟨⟨frame, outside⟩, ran, finished⟩ := Option.bind_eq_some_iff.1 built
    simp only [Builder.finish?, Option.ite_none_right_eq_some, List.isEmpty_iff,
      Option.some.injEq] at finished
    obtain ⟨rfl, rfl⟩ := finished
    exact ⟨frame, ran, rfl⟩
  · rintro ⟨frame, ran, rfl⟩
    exact Option.bind_eq_some_iff.2 ⟨_, ran, rfl⟩

/-! ## Capture groups -/

def Tree.captures : Tree → Nat
  | .nothing => 0
  | .atom _ => 0
  | .flags _ => 0
  | .group (.capture _) body => body.captures + 1
  | .group (.plain _) body => body.captures
  | .repetition _ _ _ body => body.captures
  | .sequence first rest => first.captures + rest.captures
  | .choice first rest => first.captures + rest.captures

def Tree.captureNames : Tree → List (Option String)
  | .nothing => []
  | .atom _ => []
  | .flags _ => []
  | .group (.capture name) body => name :: body.captureNames
  | .group (.plain _) body => body.captureNames
  | .repetition _ _ _ body => body.captureNames
  | .sequence first rest => first.captureNames ++ rest.captureNames
  | .choice first rest => first.captureNames ++ rest.captureNames

theorem Tree.length_captureNames (tree : Tree) : tree.captureNames.length = tree.captures := by
  induction tree with
  | group grouping body ih => cases grouping <;> simp [captureNames, captures, ih]
  | repetition least most greedy body ih => exact ih
  | sequence first rest firstIh restIh => simp [captureNames, captures, firstIh, restIh]
  | choice first rest firstIh restIh => simp [captureNames, captures, firstIh, restIh]
  | _ => rfl

theorem foldl_captureNames (join : Tree → Tree → Tree)
    (joined : ∀ a b, (join a b).captureNames = a.captureNames ++ b.captureNames) (last : Tree)
    (before : List Tree) : (before.foldl (fun sofar part => join part sofar) last).captureNames =
      before.reverse.flatMap Tree.captureNames ++ last.captureNames := by
  induction before generalizing last with
  | nil => rfl
  | cons part before ih => rw [List.foldl_cons, ih, joined]; simp

theorem sequenceOf_captureNames (parts : List Tree) :
    (sequenceOf parts).captureNames = parts.reverse.flatMap Tree.captureNames := by
  cases parts with
  | nil => rfl
  | cons last before =>
      have folded := foldl_captureNames .sequence (fun _ _ => rfl) last before
      rw [sequenceOf, folded]
      simp

namespace Frame

def captureNames (f : Frame) : List (Option String) :=
  f.branches.reverse.flatMap Tree.captureNames ++ f.parts.reverse.flatMap Tree.captureNames

theorem captureNames_push (f : Frame) (part : Tree) :
    (f.push part).captureNames = f.captureNames ++ part.captureNames := by
  simp [captureNames, push]

theorem captureNames_close (f : Frame) : f.close.captureNames = f.captureNames := by
  have folded := foldl_captureNames .choice (fun _ _ => rfl) (sequenceOf f.parts) f.branches
  rw [close, choiceOf, folded, sequenceOf_captureNames]
  rfl

theorem captureNames_endBranch (f : Frame) : f.endBranch.captureNames = f.captureNames := by
  simp [captureNames, endBranch, sequenceOf_captureNames]

theorem captureNames_repeatLast? {f g : Frame} {least : Nat} {most : Option Nat} {greedy : Bool}
    (repeated : f.repeatLast? least most greedy = some g) : g.captureNames = f.captureNames := by
  obtain ⟨branches, parts⟩ := f
  cases parts with
  | nil => cases repeated
  | cons last before =>
      simp only [repeatLast?, Option.ite_none_right_eq_some] at repeated
      obtain ⟨-, same⟩ := repeated
      obtain rfl := Option.some.inj same
      simp [captureNames, Tree.captureNames]

end Frame

/-- The capture groups in the frame around an open group, and the group itself if it captures. -/
def openCaptureNames (open_ : Grouping × Frame) : List (Option String) :=
  open_.2.captureNames ++ (Lexeme.opening open_.1).captureName?.toList

def Builder.captureNames (b : Builder) : List (Option String) :=
  b.outside.reverse.flatMap openCaptureNames ++ b.frame.captureNames

theorem Builder.captureNames_step? {b c : Builder} {l : Lexeme} (stepped : b.step? l = some c) :
    c.captureNames = b.captureNames ++ l.captureName?.toList := by
  obtain ⟨frame, outside⟩ := b
  cases l with
  | atom a =>
      obtain rfl := Option.some.inj stepped
      simp [captureNames, Frame.captureNames_push, Tree.captureNames, Lexeme.captureName?]
  | flags change =>
      obtain rfl := Option.some.inj stepped
      simp [captureNames, Frame.captureNames_push, Tree.captureNames, Lexeme.captureName?]
  | opening grouping =>
      obtain rfl := Option.some.inj stepped
      simp [captureNames, openCaptureNames, Frame.captureNames, Frame.fresh]
  | closing =>
      cases outside with
      | nil => cases stepped
      | cons open_ outside =>
          obtain rfl := Option.some.inj stepped
          obtain ⟨grouping, outer⟩ := open_
          have grouped : (Tree.group grouping frame.close).captureNames =
              (Lexeme.opening grouping).captureName?.toList ++ frame.captureNames := by
            cases grouping <;>
              simp [Tree.captureNames, Lexeme.captureName?, Frame.captureNames_close]
          simp [captureNames, openCaptureNames, Frame.captureNames_push, grouped,
            show Lexeme.closing.captureName? = none from rfl]
  | bar =>
      obtain rfl := Option.some.inj stepped
      simp [captureNames, Frame.captureNames_endBranch, Lexeme.captureName?]
  | repetition least most greedy =>
      obtain ⟨repeated, done, rfl⟩ := Option.map_eq_some_iff.1 stepped
      simp [captureNames, Frame.captureNames_repeatLast? done, Lexeme.captureName?]

theorem Builder.captureNames_run? {b c : Builder} {ls : List Lexeme} (ran : b.run? ls = some c) :
    c.captureNames = b.captureNames ++ ModalLexer.captureNames ls := by
  induction ls generalizing b with
  | nil =>
      obtain rfl := Option.some.inj ran
      exact (List.append_nil _).symm
  | cons l ls ih =>
      rw [run?_cons] at ran
      obtain ⟨between, stepped, later⟩ := Option.bind_eq_some_iff.1 ran
      rw [ih later, captureNames_step? stepped, captureNames_cons, List.append_assoc]

/-- A tree has the capture groups that its lexemes open, in their order. -/
theorem Tree.captureNames_ofLexemes? {ls : List Lexeme} {tree : Tree}
    (built : Tree.ofLexemes? ls = some tree) :
    tree.captureNames = ModalLexer.captureNames ls := by
  obtain ⟨frame, ran, rfl⟩ := Tree.ofLexemes?_eq_some_iff.1 built
  have named := Builder.captureNames_run? ran
  rw [Frame.captureNames_close]
  simpa [Builder.captureNames, Builder.fresh, Frame.fresh, Frame.captureNames] using named

theorem Tree.captures_ofLexemes? {ls : List Lexeme} {tree : Tree}
    (built : Tree.ofLexemes? ls = some tree) : tree.captures = ModalLexer.captures ls := by
  rw [← tree.length_captureNames, captureNames_ofLexemes? built,
    ModalLexer.length_captureNames]

/-! ## Frames -/

/-- A property of frames that lexemes of some kind preserve. -/
structure Frame.Invariant (ok : Lexeme → Prop) (P : Frame → Prop) : Prop where
  fresh : P .fresh
  atom {f : Frame} (a : Atom) (holds : P f) : P (f.push (.atom a))
  flags {f : Frame} (change : FlagChange) (good : ok (.flags change)) (holds : P f) :
    P (f.push (.flags change))
  group {f g : Frame} (grouping : Grouping) (inner : P f) (outer : P g) :
    P (g.push (.group grouping f.close))
  endBranch {f : Frame} (holds : P f) : P f.endBranch
  repetition {branches before : List Tree} {last : Tree} (least : Nat) (most : Option Nat)
    (greedy : Bool) (holds : P ⟨branches, last :: before⟩) :
    P ⟨branches, .repetition least most greedy last :: before⟩

structure Builder.Frames (P : Frame → Prop) (b : Builder) : Prop where
  frame : P b.frame
  outside : ∀ open_ ∈ b.outside, P open_.2

namespace Frame.Invariant

variable {ok : Lexeme → Prop} {P : Frame → Prop} (inv : Invariant ok P)

include inv

theorem step? {b c : Builder} {l : Lexeme} (holds : b.Frames P) (good : ok l)
    (stepped : b.step? l = some c) : c.Frames P := by
  obtain ⟨frame, outside⟩ := b
  obtain ⟨inner, outer⟩ := holds
  cases l with
  | atom a =>
      obtain rfl := Option.some.inj stepped
      exact ⟨inv.atom a inner, outer⟩
  | flags change =>
      obtain rfl := Option.some.inj stepped
      exact ⟨inv.flags change good inner, outer⟩
  | bar =>
      obtain rfl := Option.some.inj stepped
      exact ⟨inv.endBranch inner, outer⟩
  | opening grouping =>
      obtain rfl := Option.some.inj stepped
      exact ⟨inv.fresh, List.forall_mem_cons.2 ⟨inner, outer⟩⟩
  | closing =>
      cases outside with
      | nil => cases stepped
      | cons open_ outside =>
          obtain rfl := Option.some.inj stepped
          rw [List.forall_mem_cons] at outer
          exact ⟨inv.group open_.1 inner outer.1, outer.2⟩
  | repetition least most greedy =>
      obtain ⟨repeated, done, rfl⟩ := Option.map_eq_some_iff.1 stepped
      refine ⟨?_, outer⟩
      obtain ⟨branches, parts⟩ := frame
      cases parts with
      | nil => cases done
      | cons last before =>
          simp only [repeatLast?, Option.ite_none_right_eq_some] at done
          obtain ⟨-, same⟩ := done
          obtain rfl := Option.some.inj same
          exact inv.repetition least most greedy inner

theorem run? {b c : Builder} {ls : List Lexeme} (holds : b.Frames P) (good : ∀ l ∈ ls, ok l)
    (ran : b.run? ls = some c) : c.Frames P := by
  induction ls generalizing b with
  | nil =>
      obtain rfl := Option.some.inj ran
      exact holds
  | cons l ls ih =>
      rw [List.forall_mem_cons] at good
      rw [Builder.run?_cons] at ran
      obtain ⟨between, stepped, later⟩ := Option.bind_eq_some_iff.1 ran
      exact ih (inv.step? holds good.1 stepped) good.2 later

/-- What holds of a fresh frame holds of every frame that lexemes are read into. -/
theorem of_run? {ls : List Lexeme} {frame : Frame} {outside : List (Grouping × Frame)}
    (good : ∀ l ∈ ls, ok l) (ran : Builder.fresh.run? ls = some ⟨frame, outside⟩) : P frame :=
  (inv.run? ⟨inv.fresh, fun _ member => absurd member List.not_mem_nil⟩ good ran).frame

end Frame.Invariant

end ModalLexer
