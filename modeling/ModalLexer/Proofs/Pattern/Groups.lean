import Mathlib.Data.List.Basic
import Mathlib.Data.List.Forall2
import Mathlib.Data.List.Nodup
import ModalLexer.Pattern.Meaning
import ModalLexer.Proofs.Tree.Builder

/-! # The capture groups of a pattern

Putting patterns together keeps their groups in order.  Where branches share their beginning it is
written once, so a group in it would be lost; but groups have different numbers, so there is none
(`Pattern.groups_choose`).  Hence what groups a written pattern has does not depend on flags
(`Tree.groups_piece?`): they are those outside repetitions of zero rounds. -/
set_option autoImplicit false
namespace ModalLexer

namespace Pattern

def groupsOf (ps : List Pattern) : List (Nat × Option String) := ps.flatMap groups

/-- No two groups have the same number. -/
def Distinct (gs : List (Nat × Option String)) : Prop := (gs.map (·.1)).Nodup

@[simp] theorem groupsOf_nil : groupsOf [] = [] := rfl

@[simp] theorem groupsOf_cons (p : Pattern) (ps : List Pattern) :
    groupsOf (p :: ps) = p.groups ++ groupsOf ps := rfl

@[simp] theorem groupsOf_append (ps qs : List Pattern) :
    groupsOf (ps ++ qs) = groupsOf ps ++ groupsOf qs := by
  simp [groupsOf]

/-! ## Sequences -/

theorem groupsOf_parts (p : Pattern) : groupsOf p.parts = p.groups := by
  induction p with
  | sequence first rest _ ih => simp [parts, groups, ih]
  | nothing => rfl
  | _ => simp [parts]

theorem groupsOf_consPart (part : Pattern) (ps : List Pattern) :
    groupsOf (consPart part ps) = part.groups ++ groupsOf ps := by
  unfold consPart
  split
  · rfl
  · rfl

theorem groups_foldSequence (ps : List Pattern) : (foldSequence ps).groups = groupsOf ps := by
  fun_induction foldSequence ps with
  | case1 => rfl
  | case2 p => simp
  | case3 p rest _ ih => simp [groups, ih]

theorem groupsOf_flatMap {f : Pattern → List Pattern}
    (keeps : ∀ p, groupsOf (f p) = p.groups) (ps : List Pattern) :
    groupsOf (ps.flatMap f) = groupsOf ps := by
  induction ps with
  | nil => rfl
  | cons p ps ih => simp [ih, keeps]

theorem groups_sequenceAll (ps : List Pattern) : (sequenceAll ps).groups = groupsOf ps := by
  rw [sequenceAll, groups_foldSequence, ← groupsOf_flatMap groupsOf_parts ps]
  induction ps.flatMap parts with
  | nil => rfl
  | cons p ps ih => rw [List.foldr_cons, groupsOf_consPart, ih, groupsOf_cons]

/-! ## Choices -/

theorem groupsOf_branches (p : Pattern) : groupsOf p.branches = p.groups := by
  induction p with
  | choice first rest _ ih => simp [branches, groups, ih]
  | _ => simp [branches]

theorem groups_foldChoice (ps : List Pattern) : (foldChoice ps).groups = groupsOf ps := by
  fun_induction foldChoice ps with
  | case1 => rfl
  | case2 p => simp
  | case3 p rest _ ih => simp [groups, ih]

theorem groups_ofSet (chars : CharSet) (ofBytes : Bool) : (ofSet chars ofBytes).groups = [] := by
  unfold ofSet
  split <;> rfl

theorem forall₂_of_mapM {α β : Type} {f : α → Option β} {xs : List α} {ys : List β}
    (all : xs.mapM f = some ys) : List.Forall₂ (fun x y => f x = some y) xs ys := by
  induction xs generalizing ys with
  | nil =>
      obtain rfl := Option.some.inj all
      exact .nil
  | cons x xs ih =>
      rw [List.mapM_cons] at all
      obtain ⟨y, first, all⟩ := Option.bind_eq_some_iff.1 all
      obtain ⟨rest, later, all⟩ := Option.bind_eq_some_iff.1 all
      obtain rfl := Option.some.inj all
      exact .cons first (ih later)

theorem groupsOf_eq_nil_of_mapM {α : Type} {f : Pattern → Option α}
    (without : ∀ p a, f p = some a → p.groups = []) {ps : List Pattern} {as : List α}
    (all : ps.mapM f = some as) : groupsOf ps = [] := by
  have each := forall₂_of_mapM all
  clear all
  induction each with
  | nil => rfl
  | cons first _ ih => rw [groupsOf_cons, without _ _ first, ih, List.append_nil]

theorem groups_of_onlyChar? (p : Pattern) (c : Char) (only : p.onlyChar? = some c) :
    p.groups = [] := by
  unfold onlyChar? at only
  split at only
  · rfl
  · cases only

theorem groups_of_set? (p : Pattern) (chars : CharSet) (only : p.set? = some chars) :
    p.groups = [] := by
  unfold set? at only
  split at only
  · rfl
  · cases only

theorem groups_chooseApart (ps : List Pattern) : (chooseApart ps).groups = groupsOf ps := by
  unfold chooseApart
  split
  · simp
  · split
    · next all => rw [groups_ofSet, groupsOf_eq_nil_of_mapM groups_of_onlyChar? all]
    · split
      · next all => rw [groups_ofSet, groupsOf_eq_nil_of_mapM groups_of_set? all]
      · exact groups_foldChoice ps

/-! ## Branches that begin alike -/

theorem groups_of_sequenceParts? {p : Pattern} {ps : List Pattern}
    (parts : p.sequenceParts? = some ps) : groupsOf ps = p.groups := by
  unfold sequenceParts? at parts
  split at parts
  · obtain rfl := Option.some.inj parts
    rw [groupsOf_cons, groupsOf_parts]
    rfl
  · cases parts

theorem flatMap_groupsOf_sequenceParts? {ps : List Pattern} {sequences : List (List Pattern)}
    (each : List.Forall₂ (fun p parts => p.sequenceParts? = some parts) ps sequences) :
    sequences.flatMap groupsOf = groupsOf ps := by
  induction each with
  | nil => rfl
  | cons first _ ih => rw [List.flatMap_cons, groups_of_sequenceParts? first, ih, groupsOf_cons]

theorem take_eq_of_le_sharedParts {ps qs : List Pattern} {n : Nat}
    (shared : n ≤ sharedParts ps qs) : ps.take n = qs.take n := by
  fun_induction sharedParts ps qs generalizing n with
  | case1 ps q qs ih =>
      cases n with
      | zero => rfl
      | succ n => rw [List.take_succ_cons, List.take_succ_cons, ih (Nat.le_of_succ_le_succ shared)]
  | case2 => rw [Nat.le_zero.1 shared]; rfl
  | case3 => rw [Nat.le_zero.1 shared]; rfl

theorem foldl_sharedParts_le (first : List Pattern) (others : List (List Pattern)) (bound : Nat) :
    let shared := others.foldl (fun n other => min n (sharedParts first other)) bound
    shared ≤ bound ∧ ∀ other ∈ others, shared ≤ sharedParts first other := by
  induction others generalizing bound with
  | nil => exact ⟨Nat.le_refl _, nofun⟩
  | cons other others ih =>
      obtain ⟨within, each⟩ := ih (min bound (sharedParts first other))
      refine ⟨within.trans (Nat.min_le_left _ _), ?_⟩
      intro each' member
      rcases List.mem_cons.1 member with rfl | later
      · exact within.trans (Nat.min_le_right _ _)
      · exact each each' later

/-- Branches that begin alike are sequences, two or more, with some parts in common. -/
theorem exists_of_sharedStart? {all start ends : List Pattern}
    (shared : sharedStart? all = some (start, ends)) : ∃ (sequences : List (List Pattern)) (n : Nat),
      List.Forall₂ (fun p parts => p.sequenceParts? = some parts) all sequences ∧
      1 < sequences.length ∧ (∀ parts ∈ sequences, parts.take n = start) ∧
      ends = sequences.map fun parts => sequenceAll (parts.drop n) := by
  unfold sharedStart? at shared
  split at shared
  · cases shared
  · cases shared
  · cases shared
  · next first others single sequenced =>
      simp only [Option.ite_none_left_eq_some] at shared
      obtain ⟨-, same⟩ := shared
      obtain ⟨rfl, rfl⟩ := Prod.mk.inj (Option.some.inj same)
      obtain ⟨-, each⟩ := foldl_sharedParts_le first others first.length
      refine ⟨_, _, forall₂_of_mapM sequenced, ?_, ?_, rfl⟩
      · cases others with
        | nil => exact (single rfl).elim
        | cons second others => simp
      · intro other member
        rcases List.mem_cons.1 member with rfl | later
        · rfl
        · exact (take_eq_of_le_sharedParts (each other later)).symm

theorem groupsOf_take_append_drop (n : Nat) (ps : List Pattern) :
    groupsOf (ps.take n) ++ groupsOf (ps.drop n) = groupsOf ps := by
  rw [← groupsOf_append, List.take_append_drop]

/-- What two sequences of groups with different numbers share has no groups. -/
theorem groupsOf_take_eq_nil {first second : List Pattern} {n : Nat}
    (distinct : Distinct (groupsOf first ++ groupsOf second))
    (same : first.take n = second.take n) : groupsOf (first.take n) = [] := by
  rw [Distinct, List.map_append, List.nodup_append] at distinct
  rw [List.eq_nil_iff_forall_not_mem]
  intro g member
  have inFirst : g ∈ groupsOf first :=
    groupsOf_take_append_drop n first ▸ List.mem_append_left _ member
  have inSecond : g ∈ groupsOf second :=
    groupsOf_take_append_drop n second ▸ List.mem_append_left _ (same ▸ member)
  exact distinct.2.2 g.1 (List.mem_map_of_mem inFirst) g.1 (List.mem_map_of_mem inSecond) rfl

/-- Where branches with groups of different numbers begin alike, there are no groups. -/
theorem groupsOf_sharedStart? {all start ends : List Pattern} (distinct : Distinct (groupsOf all))
    (shared : sharedStart? all = some (start, ends)) :
    groupsOf start = [] ∧ groupsOf ends = groupsOf all := by
  obtain ⟨sequences, n, sequenced, two, alike, rfl⟩ := exists_of_sharedStart? shared
  rw [← flatMap_groupsOf_sequenceParts? sequenced] at distinct ⊢
  have none_shared : groupsOf start = [] := by
    match sequences, two with
    | first :: second :: others, _ =>
        rw [List.flatMap_cons, List.flatMap_cons, ← List.append_assoc, Distinct,
          List.map_append] at distinct
        obtain same := alike first List.mem_cons_self
        rw [← same]
        apply groupsOf_take_eq_nil (distinct.sublist (List.sublist_append_left _ _))
        exact same.trans (alike second (List.mem_cons_of_mem _ List.mem_cons_self)).symm
  refine ⟨none_shared, ?_⟩
  clear shared distinct two sequenced
  induction sequences with
  | nil => rfl
  | cons parts sequences ih =>
      have dropped := groupsOf_take_append_drop n parts
      rw [alike parts List.mem_cons_self, none_shared, List.nil_append] at dropped
      rw [List.map_cons, groupsOf_cons, groups_sequenceAll, dropped, List.flatMap_cons,
        ih fun other member => alike other (List.mem_cons_of_mem _ member)]

theorem groups_choose {ps : List Pattern} (distinct : Distinct (groupsOf ps)) :
    (choose ps).groups = groupsOf ps := by
  have all := groupsOf_flatMap groupsOf_branches ps
  unfold choose
  simp only
  split
  · next start ends shared =>
      rw [← all] at distinct
      obtain ⟨nothing, rest⟩ := groupsOf_sharedStart? distinct shared
      rw [groups_sequenceAll, groupsOf_append, nothing, groupsOf_cons, groups_chooseApart,
        groupsOf_flatMap groupsOf_branches ends, rest, all]
      simp
  · rw [groups_chooseApart, all]

theorem groups_repeated (least : Nat) (most : Option Nat) (greedy : Bool) (body : Pattern) :
    (repeated least most greedy body).groups = if most = some 0 then [] else body.groups := by
  have vanishes : (if body.onlyEmpty = true then some (min (most.getD 1) 1) else most) = some 0 ↔
      most = some 0 := by
    split
    · cases most with
      | none => simp
      | some most => cases most <;> simp
    · rfl
  have around (once : Prop) [Decidable once] (low : Nat) (high : Option Nat) :
      (if once then body else .repetition low high greedy body).groups = body.groups := by
    split <;> rfl
  simp only [repeated, vanishes]
  split
  · rfl
  · exact around _ _ _

end Pattern

/-! ## Written patterns -/

/-- The groups of a written pattern, numbered from `n`: those that no repetition of zero rounds
holds. -/
def Tree.groups (n : Nat) : Tree → List (Nat × Option String)
  | .nothing => []
  | .atom _ => []
  | .flags _ => []
  | .group (.capture name) body => (n, name) :: body.groups (n + 1)
  | .group (.plain _) body => body.groups n
  | .repetition _ most _ body => if most = some 0 then [] else body.groups n
  | .sequence first rest => first.groups n ++ rest.groups (n + first.captures)
  | .choice first rest => first.groups n ++ rest.groups (n + first.captures)

/-- The numbers of groups go up, and each parenthesis counts. -/
theorem Tree.groups_sorted (tree : Tree) (n : Nat) :
    ((tree.groups n).map (·.1)).Pairwise (· < ·) ∧
      ∀ g ∈ tree.groups n, n ≤ g.1 ∧ g.1 < n + tree.captures := by
  have without (m bound : Nat) : (([] : List (Nat × Option String)).map (·.1)).Pairwise (· < ·) ∧
      ∀ g ∈ ([] : List (Nat × Option String)), m ≤ g.1 ∧ g.1 < bound :=
    ⟨.nil, fun _ member => absurd member List.not_mem_nil⟩
  -- In a sequence as in a choice, the second part counts on from the first.
  have both (first rest : Tree) (m : Nat)
      (one : ((first.groups m).map (·.1)).Pairwise (· < ·) ∧
        ∀ g ∈ first.groups m, m ≤ g.1 ∧ g.1 < m + first.captures)
      (other : ((rest.groups (m + first.captures)).map (·.1)).Pairwise (· < ·) ∧
        ∀ g ∈ rest.groups (m + first.captures), m + first.captures ≤ g.1 ∧
          g.1 < m + first.captures + rest.captures) :
      ((first.groups m ++ rest.groups (m + first.captures)).map (·.1)).Pairwise (· < ·) ∧
        ∀ g ∈ first.groups m ++ rest.groups (m + first.captures),
          m ≤ g.1 ∧ g.1 < m + (first.captures + rest.captures) := by
    constructor
    · rw [List.map_append, List.pairwise_append]
      refine ⟨one.1, other.1, ?_⟩
      intro i before j after
      obtain ⟨g, inFirst, rfl⟩ := List.mem_map.1 before
      obtain ⟨h, inRest, rfl⟩ := List.mem_map.1 after
      have := one.2 g inFirst
      have := other.2 h inRest
      omega
    · intro g member
      rcases List.mem_append.1 member with inFirst | inRest
      · have := one.2 g inFirst
        omega
      · have := other.2 g inRest
        omega
  induction tree generalizing n with
  | nothing => exact without n n
  | atom a => exact without n n
  | flags change => exact without n n
  | group grouping body ih =>
      cases grouping with
      | plain change => exact ih n
      | capture name =>
          obtain ⟨sorted, within⟩ := ih (n + 1)
          simp only [groups, captures, List.map_cons, List.pairwise_cons, List.mem_cons]
          refine ⟨⟨?_, sorted⟩, ?_⟩
          · intro i member
            obtain ⟨g, inside, rfl⟩ := List.mem_map.1 member
            exact (within g inside).1
          · intro g member
            rcases member with rfl | inside
            · simp only
              omega
            · have := within g inside
              omega
  | repetition least most greedy body ih =>
      simp only [groups, captures]
      split
      · exact without n _
      · exact ih n
  | sequence first rest firstIh restIh =>
      exact both first rest n (firstIh n) (restIh (n + first.captures))
  | choice first rest firstIh restIh =>
      exact both first rest n (firstIh n) (restIh (n + first.captures))

theorem Tree.groups_distinct (tree : Tree) (n : Nat) : Pattern.Distinct (tree.groups n) :=
  (tree.groups_sorted n).1.imp Nat.ne_of_lt

namespace Piece

def groups : Piece → List (Nat × Option String)
  | .whole p => p.groups
  | .parts ps => Pattern.groupsOf ps
  | .branches ps => Pattern.groupsOf ps

@[simp] theorem groups_whole (p : Pattern) : (whole p).groups = p.groups := rfl

@[simp] theorem groups_parts (ps : List Pattern) : (parts ps).groups = Pattern.groupsOf ps := rfl

@[simp] theorem groups_branches (ps : List Pattern) :
    (branches ps).groups = Pattern.groupsOf ps := rfl

variable {piece : Piece} {tree : Tree} {n : Nat}

theorem groups_pattern (grouped : piece.groups = tree.groups n) :
    piece.pattern.groups = tree.groups n := by
  rw [← grouped]
  cases piece with
  | whole p => rfl
  | parts ps => exact Pattern.groups_sequenceAll ps
  | branches ps =>
      have distinct := tree.groups_distinct n
      rw [← grouped] at distinct
      exact Pattern.groups_choose distinct

theorem groupsOf_asParts (grouped : piece.groups = tree.groups n) :
    Pattern.groupsOf piece.asParts = tree.groups n := by
  unfold asParts
  split
  · exact grouped
  · simp [groups_pattern grouped]

theorem groupsOf_asBranches (grouped : piece.groups = tree.groups n) :
    Pattern.groupsOf piece.asBranches = tree.groups n := by
  unfold asBranches
  split
  · exact grouped
  · simp [groups_pattern grouped]

end Piece

theorem Atom.groups_meaning? {flags : Flags} {a : Atom} {p : Pattern}
    (meaning : a.meaning? flags = some p) : p.groups = [] := by
  have literal (c : Char) : (flags.literal c).groups = [] := by
    unfold Flags.literal
    split
    · exact Pattern.groups_ofSet _ _
    · rfl
  have mapped {o : Option CharSet} (found : o.map flags.ofSet = some p) : p.groups = [] := by
    obtain ⟨chars, -, rfl⟩ := Option.map_eq_some_iff.1 found
    exact Pattern.groups_ofSet chars _
  cases a with
  | literal c asByte =>
      simp only [Atom.meaning?, Option.ite_none_left_eq_some, Option.some.injEq] at meaning
      obtain ⟨-, rfl⟩ := meaning
      exact literal c
  | dot =>
      simp only [Atom.meaning?, Option.ite_none_right_eq_some, Option.some.injEq] at meaning
      obtain ⟨-, rfl⟩ := meaning
      exact Pattern.groups_ofSet _ _
  | assertion kind =>
      obtain rfl := Option.some.inj meaning
      rfl
  | shorthand kind negated => exact mapped meaning
  | property query negated => exact mapped meaning
  | bracket negated inside =>
      obtain ⟨chars, -, found⟩ := Option.bind_eq_some_iff.1 meaning
      exact mapped found

/-- Which groups a written pattern has, and how many numbers they take, is the same under all
flags. -/
theorem Tree.groups_piece? {tree : Tree} {scope behind : Scope} {piece : Piece}
    (meant : tree.piece? scope = some (piece, behind)) :
    piece.groups = tree.groups scope.nextGroup ∧
      behind.nextGroup = scope.nextGroup + tree.captures := by
  induction tree generalizing scope behind piece with
  | nothing =>
      obtain ⟨rfl, rfl⟩ := Prod.mk.inj (Option.some.inj meant)
      exact ⟨rfl, rfl⟩
  | atom a =>
      obtain ⟨p, meaning, same⟩ := Option.map_eq_some_iff.1 meant
      obtain ⟨rfl, rfl⟩ := Prod.mk.inj same
      exact ⟨Atom.groups_meaning? meaning, rfl⟩
  | flags change =>
      obtain ⟨rfl, rfl⟩ := Prod.mk.inj (Option.some.inj meant)
      exact ⟨rfl, rfl⟩
  | group grouping body ih =>
      cases grouping with
      | capture name =>
          obtain ⟨⟨inner, after⟩, bodyMeant, same⟩ := Option.bind_eq_some_iff.1 meant
          obtain ⟨rfl, rfl⟩ := Prod.mk.inj (Option.some.inj same)
          obtain ⟨grouped, counted⟩ := ih bodyMeant
          refine ⟨?_, by simp only [counted, captures]; omega⟩
          simp only [Piece.groups_whole, Pattern.groups, Piece.groups_pattern grouped,
            groups]
      | plain change =>
          obtain ⟨⟨inner, after⟩, bodyMeant, same⟩ := Option.bind_eq_some_iff.1 meant
          obtain ⟨rfl, rfl⟩ := Prod.mk.inj (Option.some.inj same)
          obtain ⟨grouped, counted⟩ := ih bodyMeant
          exact ⟨Piece.groups_pattern grouped, counted⟩
  | repetition least most greedy body ih =>
      obtain ⟨⟨inner, after⟩, bodyMeant, same⟩ := Option.bind_eq_some_iff.1 meant
      obtain ⟨rfl, rfl⟩ := Prod.mk.inj (Option.some.inj same)
      obtain ⟨grouped, counted⟩ := ih bodyMeant
      refine ⟨?_, counted⟩
      simp only [Piece.groups_whole, Pattern.groups_repeated, Piece.groups_pattern grouped,
        groups]
  | sequence first rest firstIh restIh =>
      obtain ⟨⟨one, between⟩, firstMeant, meant⟩ := Option.bind_eq_some_iff.1 meant
      obtain ⟨⟨other, after⟩, restMeant, same⟩ := Option.bind_eq_some_iff.1 meant
      obtain ⟨rfl, rfl⟩ := Prod.mk.inj (Option.some.inj same)
      obtain ⟨grouped, counted⟩ := firstIh firstMeant
      obtain ⟨groupedRest, countedRest⟩ := restIh restMeant
      refine ⟨?_, by simp only [countedRest, counted, captures]; omega⟩
      simp only [Piece.groups_parts, Pattern.groupsOf_cons, Piece.groups_pattern grouped,
        Piece.groupsOf_asParts groupedRest, counted, groups]
  | choice first rest firstIh restIh =>
      obtain ⟨⟨one, between⟩, firstMeant, meant⟩ := Option.bind_eq_some_iff.1 meant
      obtain ⟨⟨other, after⟩, restMeant, same⟩ := Option.bind_eq_some_iff.1 meant
      obtain ⟨rfl, rfl⟩ := Prod.mk.inj (Option.some.inj same)
      obtain ⟨grouped, counted⟩ := firstIh firstMeant
      obtain ⟨groupedRest, countedRest⟩ := restIh restMeant
      refine ⟨?_, by simp only [countedRest, counted, captures]; omega⟩
      simp only [Piece.groups_branches, Pattern.groupsOf_cons, Piece.groups_pattern grouped,
        Piece.groupsOf_asBranches groupedRest, counted, groups]

theorem Tree.groups_meaning? {tree : Tree} {flags : Flags} {p : Pattern}
    (meant : tree.meaning? flags = some p) : p.groups = tree.groups 1 := by
  obtain ⟨⟨piece, behind⟩, found, rfl⟩ := Option.map_eq_some_iff.1 meant
  exact Piece.groups_pattern (Tree.groups_piece? found).1

end ModalLexer
