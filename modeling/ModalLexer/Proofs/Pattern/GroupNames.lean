import Mathlib.Data.List.ReduceOption
import ModalLexer.Proofs.Pattern.Groups

/-! # Names of capture groups

The groups that are left of a written pattern are among those that are written, in their order and
with their numbers (`Tree.groups_sublist`).  All names that are written are left exactly if no
named group stands in a repetition of zero rounds (`Tree.keptNames_eq_iff`). -/
set_option autoImplicit false
namespace ModalLexer.Tree

/-- The groups that are left are some of those written, in order, and each has the number of its
parenthesis. -/
theorem groups_sublist (tree : Tree) (n : Nat) :
    ((tree.groups n).map Prod.swap).Sublist (tree.captureNames.zipIdx n) := by
  have both (first rest : Tree) (m : Nat)
      (one : ((first.groups m).map Prod.swap).Sublist (first.captureNames.zipIdx m))
      (other : ((rest.groups (m + first.captures)).map Prod.swap).Sublist
        (rest.captureNames.zipIdx (m + first.captures))) :
      ((first.groups m ++ rest.groups (m + first.captures)).map Prod.swap).Sublist
        ((first.captureNames ++ rest.captureNames).zipIdx m) := by
    rw [List.map_append, List.zipIdx_append, first.length_captureNames]
    exact one.append other
  induction tree generalizing n with
  | nothing => exact .slnil
  | atom a => exact .slnil
  | flags change => exact .slnil
  | group grouping body ih =>
      cases grouping with
      | capture name => exact (ih (n + 1)).cons_cons (name, n)
      | plain change => exact ih n
  | repetition least most greedy body ih =>
      rw [groups]
      split
      · exact List.nil_sublist _
      · exact ih n
  | sequence first rest firstIh restIh => exact both first rest n (firstIh n) (restIh _)
  | choice first rest firstIh restIh => exact both first rest n (firstIh n) (restIh _)

theorem captureNames_of_mem_groups {tree : Tree} {g : Nat × Option String}
    (member : g ∈ tree.groups 1) : 1 ≤ g.1 ∧ tree.captureNames[g.1 - 1]? = some g.2 := by
  have written := (tree.groups_sublist 1).subset (List.mem_map_of_mem member)
  exact List.mk_mem_zipIdx_iff_le_and_getElem?_sub.1 written

def keptNames (tree : Tree) (n : Nat) : List String := (tree.groups n).filterMap (·.2)

def givenNames (tree : Tree) : List String := tree.captureNames.reduceOption

theorem groupNames_eq (lexemes : List Lexeme) :
    groupNames lexemes = (ModalLexer.captureNames lexemes).reduceOption := by
  rw [groupNames, List.reduceOption, ModalLexer.captureNames, List.filterMap_filterMap]
  congr 1
  funext l
  cases l with
  | opening grouping => cases grouping <;> rfl
  | _ => rfl

theorem keptNames_sublist (tree : Tree) (n : Nat) :
    (tree.keptNames n).Sublist tree.givenNames := by
  have kept : ((tree.groups n).map (·.2)).Sublist tree.captureNames := by
    have firsts := (tree.groups_sublist n).map Prod.fst
    rw [List.map_map, List.zipIdx_map_fst] at firsts
    exact firsts
  have named := kept.filterMap id
  rw [List.filterMap_map] at named
  exact named

/-- Whether no named group stands in a repetition of zero rounds. -/
def keepsNames : Tree → Bool
  | .nothing => true
  | .atom _ => true
  | .flags _ => true
  | .group _ body => body.keepsNames
  | .repetition _ most _ body =>
      if most = some 0 then body.givenNames.isEmpty else body.keepsNames
  | .sequence first rest => first.keepsNames && rest.keepsNames
  | .choice first rest => first.keepsNames && rest.keepsNames

theorem append_eq_append_iff_of_sublist {α : Type} {part part' whole whole' : List α}
    (first : part.Sublist whole) (rest : part'.Sublist whole') :
    part ++ part' = whole ++ whole' ↔ part = whole ∧ part' = whole' := by
  constructor
  · intro equal
    have lengths := congrArg List.length equal
    rw [List.length_append, List.length_append] at lengths
    have := first.length_le
    have := rest.length_le
    exact ⟨first.eq_of_length (by omega), rest.eq_of_length (by omega)⟩
  · rintro ⟨rfl, rfl⟩
    rfl

/-- All names that are given are left exactly if no named group stands in a repetition of zero
rounds. -/
theorem keptNames_eq_iff (tree : Tree) (n : Nat) :
    tree.keptNames n = tree.givenNames ↔ tree.keepsNames = true := by
  have both (first rest : Tree) (m : Nat)
      (one : first.keptNames m = first.givenNames ↔ first.keepsNames = true)
      (other : rest.keptNames (m + first.captures) = rest.givenNames ↔ rest.keepsNames = true) :
      (first.groups m ++ rest.groups (m + first.captures)).filterMap (·.2) =
        (first.captureNames ++ rest.captureNames).reduceOption ↔
          (first.keepsNames && rest.keepsNames) = true := by
    rw [List.filterMap_append, List.reduceOption_append, Bool.and_eq_true, ← one, ← other]
    exact append_eq_append_iff_of_sublist (first.keptNames_sublist m) (rest.keptNames_sublist _)
  induction tree generalizing n with
  | nothing => exact iff_of_true rfl rfl
  | atom a => exact iff_of_true rfl rfl
  | flags change => exact iff_of_true rfl rfl
  | group grouping body ih =>
      cases grouping with
      | plain change => exact ih n
      | capture name =>
          have inner := ih (n + 1)
          cases name with
          | none => exact inner
          | some given => exact List.cons_inj_right given |>.trans inner
  | repetition least most greedy body ih =>
      rw [keptNames, groups, keepsNames]
      split
      · exact eq_comm.trans List.isEmpty_iff.symm
      · exact ih n
  | sequence first rest firstIh restIh => exact both first rest n (firstIh n) (restIh _)
  | choice first rest firstIh restIh => exact both first rest n (firstIh n) (restIh _)

end ModalLexer.Tree
