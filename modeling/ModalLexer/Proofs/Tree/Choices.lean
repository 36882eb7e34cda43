import ModalLexer.Proofs.Pattern.Renumber
import ModalLexer.Proofs.Tree.Fragment
import ModalLexer.Rule.Source

/-! # Patterns with bars between them

Two patterns with a bar between them are read as their branches one after the other
(`Fragment.orElse`), provided that the first leaves no comment open and verbose mode off.  What each
of them means is then what it means by itself, provided that the first leaves the flags as they were
(`Tree.flagsBehind`). -/
set_option autoImplicit false
namespace ModalLexer

open Reading

namespace Tree

def isChoice : Tree → Bool
  | .choice _ _ => true
  | _ => false

def orElse : Tree → Tree → Tree
  | .choice first rest, t => .choice first (rest.orElse t)
  | p, t => .choice p t

/-- Some written patterns with bars between them. -/
def anyOf : List Tree → Tree
  | [] => .nothing
  | [t] => t
  | t :: rest => t.orElse (anyOf rest)

theorem orElse_of_single {p : Tree} (single : p.isChoice = false) (t : Tree) :
    p.orElse t = .choice p t := by
  cases p with
  | choice first rest => cases single
  | _ => rfl

/-! ## Depth -/

/-- How deep a written pattern is nested as the last branch of a choice. -/
def branchDepth : Tree → Nat
  | .choice first rest => (Tree.choice first rest).depth
  | t => t.depth + 1

theorem depth_choice (first rest : Tree) :
    (Tree.choice first rest).depth = max (first.depth + 1) rest.branchDepth := by
  cases rest <;> rfl

theorem depth_le_branchDepth (t : Tree) : t.depth ≤ t.branchDepth := by
  cases t with
  | choice first rest => exact Nat.le_refl _
  | _ => exact Nat.le_succ _

theorem le_depth_choice (first rest : Tree) :
    first.depth ≤ (Tree.choice first rest).depth ∧ rest.depth ≤ (Tree.choice first rest).depth := by
  have inner := rest.depth_le_branchDepth
  rw [depth_choice]
  omega

theorem branchDepth_orElse (t u : Tree) : (t.orElse u).branchDepth = (t.orElse u).depth := by
  cases t <;> rfl

theorem le_depth_orElse (t u : Tree) :
    t.depth ≤ (t.orElse u).depth ∧ u.depth ≤ (t.orElse u).depth := by
  have deeper : t.branchDepth ≤ (t.orElse u).depth ∧ u.branchDepth ≤ (t.orElse u).depth := by
    induction t with
    | choice first rest _ ih =>
        have whole : (Tree.choice first rest).branchDepth = max (first.depth + 1) rest.branchDepth :=
          depth_choice first rest
        rw [orElse, depth_choice, branchDepth_orElse, whole]
        omega
    | _ =>
        rw [orElse, depth_choice]
        · exact ⟨Nat.le_max_left _ _, Nat.le_max_right _ _⟩
        · exact nofun
  have first := t.depth_le_branchDepth
  have rest := u.depth_le_branchDepth
  omega

theorem depth_le_anyOf {trees : List Tree} {t : Tree} (member : t ∈ trees) :
    t.depth ≤ (anyOf trees).depth := by
  induction trees with
  | nil => cases member
  | cons u trees ih =>
      cases trees with
      | nil =>
          rw [List.mem_singleton.1 member]
          exact Nat.le_refl _
      | cons v trees =>
          have both := le_depth_orElse u (anyOf (v :: trees))
          rcases List.mem_cons.1 member with rfl | later
          · exact both.1
          · exact (ih later).trans both.2

/-! ## Groups -/

theorem groups_add (tree : Tree) (n d : Nat) :
    tree.groups (n + d) = (tree.groups n).map fun g => (g.1 + d, g.2) := by
  -- In a sequence as in a choice, the second part counts on from the first.
  have both (first rest : Tree) (m : Nat)
      (one : first.groups (m + d) = (first.groups m).map fun g => (g.1 + d, g.2))
      (other : rest.groups (m + first.captures + d) =
        (rest.groups (m + first.captures)).map fun g => (g.1 + d, g.2)) :
      first.groups (m + d) ++ rest.groups (m + d + first.captures) =
        (first.groups m ++ rest.groups (m + first.captures)).map fun g => (g.1 + d, g.2) := by
    rw [List.map_append, one, Nat.add_right_comm, other]
  induction tree generalizing n with
  | nothing => rfl
  | atom a => rfl
  | flags change => rfl
  | group grouping body ih =>
      cases grouping with
      | plain change => exact ih n
      | capture name =>
          have inner := ih (n + 1)
          rw [Nat.add_right_comm] at inner
          rw [groups, groups, inner, List.map_cons]
  | repetition least most greedy body ih =>
      simp only [groups]
      split
      · rfl
      · exact ih n
  | sequence first rest firstIh restIh => exact both first rest n (firstIh n) (restIh _)
  | choice first rest firstIh restIh => exact both first rest n (firstIh n) (restIh _)

theorem captures_orElse (t u : Tree) : (t.orElse u).captures = t.captures + u.captures := by
  induction t with
  | choice first rest _ ih => simp only [orElse, captures, ih, Nat.add_assoc]
  | _ => rfl

theorem groups_orElse (t u : Tree) (n : Nat) :
    (t.orElse u).groups n = t.groups n ++ u.groups (n + t.captures) := by
  induction t generalizing n with
  | choice first rest _ ih =>
      simp only [orElse, groups, captures, ih, List.append_assoc, Nat.add_assoc]
  | _ => rfl

/-- The last capture group that is written is left. -/
def KeepsGroups (tree : Tree) : Prop :=
  0 < tree.captures → tree.captures ∈ (tree.groups 1).map (·.1)

theorem KeepsGroups.orElse {t u : Tree} (first : t.KeepsGroups) (rest : u.KeepsGroups) :
    (t.orElse u).KeepsGroups := by
  intro positive
  rw [captures_orElse] at positive ⊢
  rw [groups_orElse, groups_add, List.map_append, List.mem_append]
  rcases Nat.eq_zero_or_pos u.captures with none | some_group
  · rw [none, Nat.add_zero]
    exact .inl (first (by omega))
  · obtain ⟨g, member, last⟩ := List.mem_map.1 (rest some_group)
    refine .inr (List.mem_map.2 ⟨_, List.mem_map_of_mem member, ?_⟩)
    rw [last, Nat.add_comm]

theorem KeepsGroups.anyOf {trees : List Tree} (each : ∀ t ∈ trees, t.KeepsGroups) :
    (anyOf trees).KeepsGroups := by
  induction trees with
  | nil => exact fun positive => absurd positive (Nat.lt_irrefl 0)
  | cons t trees ih =>
      rw [List.forall_mem_cons] at each
      cases trees with
      | nil => exact each.1
      | cons u trees => exact each.1.orElse (ih each.2)

/-! ## Meaning -/

def flagsBehind (flags : Flags) : Tree → Flags
  | .nothing => flags
  | .atom _ => flags
  | .flags change => flags.change change
  | .group _ _ => flags
  | .repetition _ _ _ body => body.flagsBehind flags
  | .sequence first rest => rest.flagsBehind (first.flagsBehind flags)
  | .choice first rest => rest.flagsBehind (first.flagsBehind flags)

theorem flags_piece? {tree : Tree} {scope behind : Scope} {piece : Piece}
    (meant : tree.piece? scope = some (piece, behind)) :
    behind.flags = tree.flagsBehind scope.flags := by
  induction tree generalizing scope behind piece with
  | nothing =>
      obtain ⟨-, rfl⟩ := Prod.mk.inj (Option.some.inj meant)
      rfl
  | atom a =>
      obtain ⟨p, -, same⟩ := Option.map_eq_some_iff.1 meant
      obtain ⟨-, rfl⟩ := Prod.mk.inj same
      rfl
  | flags change =>
      obtain ⟨-, rfl⟩ := Prod.mk.inj (Option.some.inj meant)
      rfl
  | group grouping body _ =>
      cases grouping <;>
        (obtain ⟨⟨inner, after⟩, -, same⟩ := Option.bind_eq_some_iff.1 meant
         obtain ⟨-, rfl⟩ := Prod.mk.inj (Option.some.inj same)
         rfl)
  | repetition least most greedy body ih =>
      obtain ⟨⟨inner, after⟩, bodyMeant, same⟩ := Option.bind_eq_some_iff.1 meant
      obtain ⟨-, rfl⟩ := Prod.mk.inj (Option.some.inj same)
      exact ih bodyMeant
  | sequence first rest firstIh restIh =>
      obtain ⟨⟨one, between⟩, firstMeant, meant⟩ := Option.bind_eq_some_iff.1 meant
      obtain ⟨⟨other, after⟩, restMeant, same⟩ := Option.bind_eq_some_iff.1 meant
      obtain ⟨-, rfl⟩ := Prod.mk.inj (Option.some.inj same)
      rw [flagsBehind, ← firstIh firstMeant, restIh restMeant]
  | choice first rest firstIh restIh =>
      obtain ⟨⟨one, between⟩, firstMeant, meant⟩ := Option.bind_eq_some_iff.1 meant
      obtain ⟨⟨other, after⟩, restMeant, same⟩ := Option.bind_eq_some_iff.1 meant
      obtain ⟨-, rfl⟩ := Prod.mk.inj (Option.some.inj same)
      rw [flagsBehind, ← firstIh firstMeant, restIh restMeant]

theorem asBranches_of_piece? {p : Tree} (single : p.isChoice = false) {scope behind : Scope}
    {piece : Piece} (meant : p.piece? scope = some (piece, behind)) :
    piece.asBranches = [piece.pattern] := by
  cases p with
  | choice first rest => cases single
  | nothing =>
      obtain ⟨rfl, -⟩ := Prod.mk.inj (Option.some.inj meant)
      rfl
  | atom a =>
      obtain ⟨q, -, same⟩ := Option.map_eq_some_iff.1 meant
      obtain ⟨rfl, -⟩ := Prod.mk.inj same
      rfl
  | flags change =>
      obtain ⟨rfl, -⟩ := Prod.mk.inj (Option.some.inj meant)
      rfl
  | group grouping body =>
      cases grouping <;>
        (obtain ⟨inner, -, same⟩ := Option.bind_eq_some_iff.1 meant
         obtain ⟨rfl, -⟩ := Prod.mk.inj (Option.some.inj same)
         rfl)
  | repetition least most greedy body =>
      obtain ⟨inner, -, same⟩ := Option.bind_eq_some_iff.1 meant
      obtain ⟨rfl, -⟩ := Prod.mk.inj (Option.some.inj same)
      rfl
  | sequence first rest =>
      obtain ⟨one, -, meant⟩ := Option.bind_eq_some_iff.1 meant
      obtain ⟨other, -, same⟩ := Option.bind_eq_some_iff.1 meant
      obtain ⟨rfl, -⟩ := Prod.mk.inj (Option.some.inj same)
      rfl

theorem piece?_choice {t u : Tree} {scope behind : Scope} {piece : Piece}
    (meant : (Tree.choice t u).piece? scope = some (piece, behind)) : ∃ one between other,
      t.piece? scope = some (one, between) ∧ u.piece? between = some (other, behind) ∧
      piece = .branches (one.pattern :: other.asBranches) := by
  obtain ⟨⟨one, between⟩, oneMeant, meant⟩ := Option.bind_eq_some_iff.1 meant
  obtain ⟨⟨other, after⟩, otherMeant, same⟩ := Option.bind_eq_some_iff.1 meant
  obtain ⟨rfl, rfl⟩ := Prod.mk.inj (Option.some.inj same)
  exact ⟨one, between, other, oneMeant, otherMeant, rfl⟩

/-- What two written patterns mean, the second one behind the first, are branches of one choice. -/
theorem piece?_orElse {t u : Tree} {scope behind : Scope} {piece : Piece}
    (meant : (t.orElse u).piece? scope = some (piece, behind)) : ∃ one between other,
      t.piece? scope = some (one, between) ∧ u.piece? between = some (other, behind) ∧
      piece = .branches (one.asBranches ++ other.asBranches) := by
  induction t generalizing scope piece with
  | choice first rest _ ih =>
      obtain ⟨branch, early, more, firstMeant, restMeant, rfl⟩ := piece?_choice meant
      obtain ⟨one, between, other, oneMeant, otherMeant, rfl⟩ := ih restMeant
      refine ⟨.branches (branch.pattern :: one.asBranches), between, other, ?_, otherMeant, rfl⟩
      simp [piece?, firstMeant, oneMeant]
  | _ =>
      obtain ⟨one, between, other, oneMeant, otherMeant, rfl⟩ := piece?_choice meant
      refine ⟨one, between, other, oneMeant, otherMeant, ?_⟩
      rw [asBranches_of_piece? rfl oneMeant]
      rfl

end Tree

/-! ## Building the branches -/

/-- A frame in which further branches have ended before. -/
def Frame.behind (branches : List Tree) (f : Frame) : Frame :=
  { f with branches := f.branches ++ branches }

def Frame.Flat (f : Frame) : Prop := ∀ part ∈ f.parts, part.isChoice = false

theorem Frame.flat_push {f : Frame} (flat : f.Flat) {part : Tree} (single : part.isChoice = false) :
    (f.push part).Flat :=
  List.forall_mem_cons.2 ⟨single, flat⟩

theorem Frame.flat_invariant : Frame.Invariant (fun _ => True) Frame.Flat where
  fresh := fun _ member => absurd member List.not_mem_nil
  atom := fun _ flat => flat_push flat rfl
  flags := fun _ _ flat => flat_push flat rfl
  group := fun _ _ flat => flat_push flat rfl
  endBranch := fun _ _ member => absurd member List.not_mem_nil
  repetition := fun _ _ _ flat => by
    rw [Flat, List.forall_mem_cons] at flat ⊢
    exact ⟨rfl, flat.2⟩

theorem sequenceOf_isChoice {parts : List Tree} (flat : ∀ part ∈ parts, part.isChoice = false) :
    (sequenceOf parts).isChoice = false := by
  have folded (last : Tree) (single : last.isChoice = false) (before : List Tree) :
      (before.foldl (fun joined part => Tree.sequence part joined) last).isChoice = false := by
    induction before generalizing last with
    | nil => exact single
    | cons part before ih => exact ih _ rfl
  cases parts with
  | nil => rfl
  | cons last before => exact folded last (flat last List.mem_cons_self) before

theorem choiceOf_orElse (last t : Tree) (before : List Tree) :
    (choiceOf last before).orElse t = choiceOf (last.orElse t) before := by
  induction before generalizing last with
  | nil => rfl
  | cons branch before ih => exact ih (.choice branch last)

/-- A frame that goes on behind the branches of another holds the branches of both. -/
theorem Frame.close_behind {f g : Frame} (flat : f.Flat) :
    (g.behind f.endBranch.branches).close = f.close.orElse g.close := by
  rw [close, close, close, choiceOf_orElse, Tree.orElse_of_single (sequenceOf_isChoice flat)]
  exact List.foldl_append

namespace Builder

def behindOutside (branches : List Tree) : List (Grouping × Frame) → List (Grouping × Frame)
  | [] => []
  | [(grouping, frame)] => [(grouping, frame.behind branches)]
  | open_ :: next :: outside => open_ :: behindOutside branches (next :: outside)

/-- A builder in whose outermost frame further branches have ended before. -/
def behind (branches : List Tree) (b : Builder) : Builder :=
  match b.outside with
  | [] => ⟨b.frame.behind branches, []⟩
  | open_ :: outside => ⟨b.frame, behindOutside branches (open_ :: outside)⟩

variable {b c : Builder} {l : Lexeme} {ls : List Lexeme}

theorem step?_behind (stepped : b.step? l = some c) (branches : List Tree) :
    (b.behind branches).step? l = some (c.behind branches) := by
  obtain ⟨frame, outside⟩ := b
  cases l with
  | atom a =>
      obtain rfl := Option.some.inj stepped
      cases outside <;> rfl
  | flags change =>
      obtain rfl := Option.some.inj stepped
      cases outside <;> rfl
  | bar =>
      obtain rfl := Option.some.inj stepped
      cases outside <;> rfl
  | opening grouping =>
      obtain rfl := Option.some.inj stepped
      cases outside <;> rfl
  | closing =>
      match outside with
      | [] => cases stepped
      | [_] =>
          obtain rfl := Option.some.inj stepped
          rfl
      | _ :: _ :: _ =>
          obtain rfl := Option.some.inj stepped
          rfl
  | repetition least most greedy =>
      obtain ⟨repeated, done, rfl⟩ := Option.map_eq_some_iff.1 stepped
      cases outside with
      | cons open_ outside => exact Option.map_eq_some_iff.2 ⟨repeated, done, rfl⟩
      | nil =>
          refine Option.map_eq_some_iff.2 ⟨repeated.behind branches, ?_, rfl⟩
          obtain ⟨ended, parts⟩ := frame
          cases parts with
          | nil => cases done
          | cons last before =>
              simp only [Frame.repeatLast?, Option.ite_none_right_eq_some] at done
              obtain ⟨repeatable, same⟩ := done
              obtain rfl := Option.some.inj same
              exact if_pos repeatable

/-- A builder does not look at branches that ended before. -/
theorem run?_behind (ran : b.run? ls = some c) (branches : List Tree) :
    (b.behind branches).run? ls = some (c.behind branches) := by
  induction ls generalizing b with
  | nil =>
      obtain rfl := Option.some.inj ran
      rfl
  | cons l ls ih =>
      rw [run?_cons] at ran ⊢
      obtain ⟨between, stepped, later⟩ := Option.bind_eq_some_iff.1 ran
      rw [step?_behind stepped branches]
      exact ih later

end Builder

/-! ## Reading the branches -/

def Reading.Verbosity.behind? (v : Verbosity) (ls : List Lexeme) : Option Verbosity :=
  ls.foldlM Verbosity.after? v

theorem Reading.Reads.behind?_eq {v w : Verbosity} {cs left : List Char} {ls : List Lexeme}
    (reads : Reads v cs ls w left) : v.behind? ls = some w := by
  induction reads with
  | done v cs => rfl
  | step first after rest ih =>
      rw [Verbosity.behind?, List.foldlM_cons, after]
      exact ih

namespace Fragment

/-- What is written behind a fragment is read as it is by itself: the fragment leaves no comment
open and verbose mode off. -/
structure Quiet (f : Fragment) : Prop where
  clean : ¬ EndsInComment f.text
  plain : (Verbosity.behind? ⟨false, []⟩ f.lexemes).map (·.here) = some false

variable {f : Fragment} (quiet : f.Quiet)

include quiet

theorem Quiet.lexemes?_bar {cs : List Char} {ls : List Lexeme} (rest : lexemes? cs = some ls) :
    lexemes? (f.text ++ '|' :: cs) = some (f.lexemes ++ .bar :: ls) := by
  obtain ⟨here, through⟩ := f.readsThrough quiet.clean
  obtain ⟨mid, first, place⟩ := through [] ('|' :: cs) ⟨cs, Or.inr rfl⟩
  obtain rfl : here = false := by
    have off := quiet.plain
    rw [first.behind?_eq] at off
    exact Option.some.inj off
  obtain ⟨w, left, later, blank⟩ := lexemes?_eq_some_iff.1 rest
  have onward : Reads ⟨false, []⟩ mid (.bar :: ls) w left := by
    refine Reads.next cs ?_ rfl later
    rw [place]
    rfl
  exact lexemes?_eq_some_iff.2 ⟨w, left, first.append onward, blank⟩

omit quiet

theorem ofLexemes?_orElse (f g : Fragment) :
    Tree.ofLexemes? (f.lexemes ++ .bar :: g.lexemes) = some (f.tree.orElse g.tree) := by
  obtain ⟨first, firstRan, firstClosed⟩ := Tree.ofLexemes?_eq_some_iff.1 f.built
  obtain ⟨rest, restRan, restClosed⟩ := Tree.ofLexemes?_eq_some_iff.1 g.built
  have flat : first.Flat := Frame.flat_invariant.of_run? (fun _ _ => trivial) firstRan
  have behind := Builder.run?_behind restRan first.endBranch.branches
  refine Tree.ofLexemes?_eq_some_iff.2 ⟨rest.behind first.endBranch.branches, ?_, ?_⟩
  · rw [Builder.run?_append, firstRan]
    exact behind
  · rw [Frame.close_behind flat, firstClosed, restClosed]

/-- Two fragments with a bar between them. -/
def orElse (f g : Fragment) (quiet : f.Quiet) : Fragment where
  text := f.text ++ '|' :: g.text
  lexemes := f.lexemes ++ .bar :: g.lexemes
  tree := f.tree.orElse g.tree
  lexed := quiet.lexemes?_bar g.lexed
  built := ofLexemes?_orElse f g

theorem endsInComment_orElse {f g : Fragment} (quiet : f.Quiet) (comment : EndsInComment g.text) :
    EndsInComment (f.orElse g quiet).text := by
  have inner : lexemes? (g.text ++ ['|']) = some g.lexemes := Eq.trans comment g.lexed
  have outer := quiet.lexemes?_bar inner
  rw [← List.cons_append, ← List.append_assoc] at outer
  exact outer.trans (f.orElse g quiet).lexed.symm

/-- Fragments with bars between them are read as the branches of one choice. -/
theorem exists_anyOf {fs : List Fragment} (nonempty : fs ≠ []) (quiet : ∀ f ∈ fs.dropLast, f.Quiet) :
    ∃ whole : Fragment, whole.text = joinBars (fs.map (·.text)) ∧
      whole.tree = Tree.anyOf (fs.map (·.tree)) ∧
      (∀ f ∈ fs, f.lexemes.Sublist whole.lexemes) ∧
      (∀ f ∈ fs, EndsInComment f.text → EndsInComment whole.text) ∧
      ∀ l ∈ whole.lexemes, l = .bar ∨ ∃ f ∈ fs, l ∈ f.lexemes := by
  induction fs with
  | nil => exact absurd rfl nonempty
  | cons f fs ih =>
      cases fs with
      | nil =>
          refine ⟨f, rfl, rfl, ?_, ?_, fun l member => ?_⟩
          · exact List.forall_mem_singleton.2 (List.Sublist.refl _)
          · exact List.forall_mem_singleton.2 id
          · exact .inr ⟨f, List.mem_cons_self, member⟩
      | cons g fs =>
          rw [List.dropLast_cons_cons, List.forall_mem_cons] at quiet
          obtain ⟨rest, text, tree, sublists, comments, lexemes⟩ :=
            ih (List.cons_ne_nil g fs) quiet.2
          refine ⟨f.orElse rest quiet.1, ?_, ?_, ?_, ?_, fun l member => ?_⟩
          · exact congrArg (f.text ++ '|' :: ·) text
          · exact congrArg f.tree.orElse tree
          · refine List.forall_mem_cons.2 ⟨List.sublist_append_left _ _, fun h member => ?_⟩
            exact ((sublists h member).cons _).trans (List.sublist_append_right _ _)
          · refine List.forall_mem_cons.2 ⟨fun comment => absurd comment quiet.1.clean, ?_⟩
            exact fun h member comment => endsInComment_orElse quiet.1 (comments h member comment)
          · rcases List.mem_append.1 member with inFirst | later
            · exact .inr ⟨f, List.mem_cons_self, inFirst⟩
            · rcases List.mem_cons.1 later with bar | inRest
              · exact .inl bar
              · exact (lexemes l inRest).imp_right fun ⟨h, inFs, inside⟩ =>
                  ⟨h, List.mem_cons_of_mem f inFs, inside⟩

end Fragment

end ModalLexer
