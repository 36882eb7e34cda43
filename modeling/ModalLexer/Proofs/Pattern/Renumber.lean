import ModalLexer.Proofs.Pattern.Groups

/-! # Numbering groups from somewhere else

A written pattern that is part of another has its groups numbered from where it stands.  All that
is put together from patterns is put together alike after adding to the numbers of their groups
(`Tree.piece?_shift`). -/
set_option autoImplicit false
namespace ModalLexer

namespace Pattern

variable (d : Nat)

/-- Adds to the numbers of all groups. -/
def shift : Pattern → Pattern
  | .nothing => .nothing
  | .literal chars => .literal chars
  | .set chars ofBytes => .set chars ofBytes
  | .look kind => .look kind
  | .group index name body => .group (index + d) name body.shift
  | .repetition least most greedy body => .repetition least most greedy body.shift
  | .sequence first rest => .sequence first.shift rest.shift
  | .choice first rest => .choice first.shift rest.shift

theorem shift_eq_self {p : Pattern} (without : p.groups = []) : p.shift d = p := by
  induction p with
  | group index name body _ => cases without
  | repetition least most greedy body ih => rw [shift, ih without]
  | sequence first rest firstIh restIh =>
      obtain ⟨one, other⟩ := List.append_eq_nil_iff.1 without
      rw [shift, firstIh one, restIh other]
  | choice first rest firstIh restIh =>
      obtain ⟨one, other⟩ := List.append_eq_nil_iff.1 without
      rw [shift, firstIh one, restIh other]
  | _ => rfl

theorem shift_injective : Function.Injective (shift d) := by
  intro p
  induction p with
  | group index name body ih =>
      intro q same
      cases q with
      | group index' name' body' =>
          simp only [shift, group.injEq, Nat.add_right_cancel_iff] at same
          rw [same.1, same.2.1, ih same.2.2]
      | _ => cases same
  | repetition least most greedy body ih =>
      intro q same
      cases q with
      | repetition least' most' greedy' body' =>
          simp only [shift, repetition.injEq] at same
          rw [same.1, same.2.1, same.2.2.1, ih same.2.2.2]
      | _ => cases same
  | sequence first rest firstIh restIh =>
      intro q same
      cases q with
      | sequence first' rest' =>
          simp only [shift, sequence.injEq] at same
          rw [firstIh same.1, restIh same.2]
      | _ => cases same
  | choice first rest firstIh restIh =>
      intro q same
      cases q with
      | choice first' rest' =>
          simp only [shift, choice.injEq] at same
          rw [firstIh same.1, restIh same.2]
      | _ => cases same
  | _ =>
      intro q same
      cases q <;> first | exact same | cases same

@[simp] theorem leastLength?_shift (p : Pattern) : (p.shift d).leastLength? = p.leastLength? := by
  induction p with
  | group index name body ih => simpa [shift, leastLength?] using ih
  | repetition least most greedy body ih => simp [shift, leastLength?, ih]
  | sequence first rest firstIh restIh => simp [shift, leastLength?, firstIh, restIh]
  | choice first rest firstIh restIh => simp [shift, leastLength?, firstIh, restIh]
  | _ => rfl

@[simp] theorem consumes_shift (p : Pattern) : (p.shift d).consumes = p.consumes := by
  simp [consumes]

@[simp] theorem onlyEmpty_shift (p : Pattern) : (p.shift d).onlyEmpty = p.onlyEmpty := by
  induction p with
  | group index name body ih => simpa [shift, onlyEmpty] using ih
  | repetition least most greedy body ih => simp [shift, onlyEmpty, ih]
  | sequence first rest firstIh restIh => simp [shift, onlyEmpty, firstIh, restIh]
  | choice first rest firstIh restIh => simp [shift, onlyEmpty, firstIh, restIh]
  | _ => rfl

/-! ## Sequences -/

theorem parts_shift (p : Pattern) : (p.shift d).parts = p.parts.map (shift d) := by
  induction p with
  | sequence first rest _ ih => simp [shift, parts, ih]
  | _ => rfl

theorem branches_shift (p : Pattern) : (p.shift d).branches = p.branches.map (shift d) := by
  induction p with
  | choice first rest _ ih => simp [shift, branches, ih]
  | _ => rfl

theorem consPart_shift (part : Pattern) (ps : List Pattern) :
    consPart (part.shift d) (ps.map (shift d)) = (consPart part ps).map (shift d) := by
  cases ps with
  | nil => cases part <;> rfl
  | cons p ps => cases part <;> cases p <;> rfl

theorem foldSequence_shift (ps : List Pattern) :
    foldSequence (ps.map (shift d)) = (foldSequence ps).shift d := by
  fun_induction foldSequence ps with
  | case1 => rfl
  | case2 p => rfl
  | case3 p rest more ih =>
      cases rest with
      | nil => exact (more rfl).elim
      | cons q rest => exact congrArg (sequence (p.shift d)) ih

theorem foldChoice_shift (ps : List Pattern) :
    foldChoice (ps.map (shift d)) = (foldChoice ps).shift d := by
  fun_induction foldChoice ps with
  | case1 => rfl
  | case2 p => rfl
  | case3 p rest more ih =>
      cases rest with
      | nil => exact (more rfl).elim
      | cons q rest => exact congrArg (choice (p.shift d)) ih

theorem flatMap_shift {f : Pattern → List Pattern}
    (shifts : ∀ p, f (p.shift d) = (f p).map (shift d)) (ps : List Pattern) :
    (ps.map (shift d)).flatMap f = (ps.flatMap f).map (shift d) := by
  rw [List.flatMap_map, List.map_flatMap]
  exact List.flatMap_congr fun p _ => shifts p

theorem sequenceAll_shift (ps : List Pattern) :
    sequenceAll (ps.map (shift d)) = (sequenceAll ps).shift d := by
  have folded (qs : List Pattern) : (qs.map (shift d)).foldr consPart [] =
      (qs.foldr consPart []).map (shift d) := by
    induction qs with
    | nil => rfl
    | cons q qs ih => rw [List.map_cons, List.foldr_cons, List.foldr_cons, ih, consPart_shift]
  rw [sequenceAll, sequenceAll, flatMap_shift d (parts_shift d), folded, foldSequence_shift]

/-! ## Choices -/

theorem mapM_shift {α : Type} {f : Pattern → Option α} (same : ∀ p, f (p.shift d) = f p)
    (ps : List Pattern) : (ps.map (shift d)).mapM f = ps.mapM f := by
  induction ps with
  | nil => rfl
  | cons p ps ih => rw [List.map_cons, List.mapM_cons, List.mapM_cons, same, ih]

theorem onlyChar?_shift (p : Pattern) : (p.shift d).onlyChar? = p.onlyChar? := by
  cases p <;> rfl

theorem set?_shift (p : Pattern) : (p.shift d).set? = p.set? := by
  cases p <;> rfl

theorem chooseApart_eq {ps : List Pattern} (several : ∀ p, ps ≠ [p]) : chooseApart ps =
    (((ps.mapM onlyChar?).map fun chars => ofSet (.ofChars chars)).or
      ((ps.mapM set?).map fun sets => ofSet (.unions sets))).getD (foldChoice ps) := by
  unfold chooseApart
  split
  · exact absurd rfl (several _)
  · cases ps.mapM onlyChar? with
    | some chars => rfl
    | none => cases ps.mapM set? <;> rfl

theorem chooseApart_shift (ps : List Pattern) :
    chooseApart (ps.map (shift d)) = (chooseApart ps).shift d := by
  by_cases several : ∀ p, ps ≠ [p]
  · have still (q : Pattern) : ps.map (shift d) ≠ [q] := by
      intro single
      obtain ⟨p, rfl, -⟩ := List.map_eq_singleton_iff.1 single
      exact several p rfl
    rw [chooseApart_eq several, chooseApart_eq still, mapM_shift d (onlyChar?_shift d),
      mapM_shift d (set?_shift d)]
    cases ps.mapM onlyChar? with
    | some chars => exact (shift_eq_self d (groups_ofSet _ _)).symm
    | none =>
        cases ps.mapM set? with
        | some sets => exact (shift_eq_self d (groups_ofSet _ _)).symm
        | none => exact foldChoice_shift d ps
  · obtain ⟨p, single⟩ := not_forall_not.1 several
    rw [single]
    rfl

theorem sharedParts_shift (ps qs : List Pattern) :
    sharedParts (ps.map (shift d)) (qs.map (shift d)) = sharedParts ps qs := by
  induction ps generalizing qs with
  | nil => rfl
  | cons p ps ih =>
      cases qs with
      | nil => rfl
      | cons q qs =>
          simp only [List.map_cons, sharedParts, (shift_injective d).eq_iff, ih]

theorem sequenceParts?_shift (p : Pattern) :
    (p.shift d).sequenceParts? = p.sequenceParts?.map (List.map (shift d)) := by
  cases p with
  | sequence first rest => simp [shift, sequenceParts?, parts_shift]
  | _ => rfl

theorem mapM_sequenceParts?_shift (ps : List Pattern) :
    (ps.map (shift d)).mapM sequenceParts? =
      (ps.mapM sequenceParts?).map (List.map (List.map (shift d))) := by
  induction ps with
  | nil => rfl
  | cons p ps ih =>
      rw [List.map_cons, List.mapM_cons, List.mapM_cons, sequenceParts?_shift, ih]
      cases p.sequenceParts? with
      | none => rfl
      | some parts => cases ps.mapM sequenceParts? <;> rfl

theorem sharedStart?_shift (ps : List Pattern) : sharedStart? (ps.map (shift d)) =
    (sharedStart? ps).map fun (start, ends) => (start.map (shift d), ends.map (shift d)) := by
  unfold sharedStart?
  rw [mapM_sequenceParts?_shift]
  cases ps.mapM sequenceParts? with
  | none => rfl
  | some sequences =>
      match sequences with
      | [] => rfl
      | [_] => rfl
      | first :: second :: others =>
          have folded (sequences : List (List Pattern)) (bound : Nat) :
              (sequences.map (List.map (shift d))).foldl
                (fun n other => min n (sharedParts (first.map (shift d)) other)) bound =
              sequences.foldl (fun n other => min n (sharedParts first other)) bound := by
            induction sequences generalizing bound with
            | nil => rfl
            | cons other sequences ih =>
                rw [List.map_cons, List.foldl_cons, List.foldl_cons, sharedParts_shift, ih]
          have both := folded (second :: others) first.length
          rw [List.map_cons] at both
          simp only [Option.map_some, List.map_cons, List.length_map, both]
          split
          · rfl
          · simp only [Option.map_some, List.map_take, List.map_cons, List.map_map,
              Function.comp_def, List.map_drop, ← sequenceAll_shift]

theorem choose_shift (ps : List Pattern) : choose (ps.map (shift d)) = (choose ps).shift d := by
  unfold choose
  simp only [flatMap_shift d (branches_shift d), sharedStart?_shift]
  cases sharedStart? (ps.flatMap branches) with
  | none => exact chooseApart_shift d _
  | some shared =>
      obtain ⟨start, ends⟩ := shared
      simp only [Option.map_some, flatMap_shift d (branches_shift d), chooseApart_shift]
      rw [← sequenceAll_shift, List.map_append, List.map_singleton]

theorem repeated_shift (least : Nat) (most : Option Nat) (greedy : Bool) (p : Pattern) :
    repeated least most greedy (p.shift d) = (repeated least most greedy p).shift d := by
  have around (never once : Prop) [Decidable never] [Decidable once] (low : Nat)
      (high : Option Nat) :
      (if never then .nothing else if once then p.shift d
        else .repetition low high greedy (p.shift d)) =
      (if never then .nothing else if once then p else .repetition low high greedy p).shift d := by
    split
    · rfl
    · split <;> rfl
  simp only [repeated, onlyEmpty_shift]
  exact around _ _ _ _

end Pattern

namespace Piece

variable (d : Nat)

/-- Adds to the numbers of all groups. -/
def shift : Piece → Piece
  | .whole p => .whole (p.shift d)
  | .parts ps => .parts (ps.map (Pattern.shift d))
  | .branches ps => .branches (ps.map (Pattern.shift d))

@[simp] theorem shift_whole (p : Pattern) : (whole p).shift d = whole (p.shift d) := rfl

@[simp] theorem shift_parts (ps : List Pattern) :
    (parts ps).shift d = parts (ps.map (Pattern.shift d)) := rfl

@[simp] theorem shift_branches (ps : List Pattern) :
    (branches ps).shift d = branches (ps.map (Pattern.shift d)) := rfl

theorem pattern_shift (piece : Piece) : (piece.shift d).pattern = piece.pattern.shift d := by
  cases piece with
  | whole p => rfl
  | parts ps => exact Pattern.sequenceAll_shift d ps
  | branches ps => exact Pattern.choose_shift d ps

theorem asParts_shift (piece : Piece) :
    (piece.shift d).asParts = piece.asParts.map (Pattern.shift d) := by
  cases piece with
  | whole p => rfl
  | parts ps => rfl
  | branches ps => exact congrArg (fun p => [p]) (Pattern.choose_shift d ps)

theorem asBranches_shift (piece : Piece) :
    (piece.shift d).asBranches = piece.asBranches.map (Pattern.shift d) := by
  cases piece with
  | whole p => rfl
  | parts ps => exact congrArg (fun p => [p]) (Pattern.sequenceAll_shift d ps)
  | branches ps => rfl

end Piece

/-- Numbers the next groups from further on. -/
def Scope.shift (d : Nat) (scope : Scope) : Scope := { scope with nextGroup := scope.nextGroup + d }

/-- A written pattern whose groups are numbered from further on means the same pattern with
other numbers. -/
theorem Tree.piece?_shift (d : Nat) (tree : Tree) (scope : Scope) :
    tree.piece? (scope.shift d) =
      (tree.piece? scope).map fun (piece, behind) => (piece.shift d, behind.shift d) := by
  -- The scope behind a part is shifted as well, so the next part is met where it should be.
  induction tree generalizing scope with
  | nothing => rfl
  | atom a =>
      cases meaning : a.meaning? scope.flags with
      | none => simp [piece?, Scope.shift, meaning]
      | some p =>
          simp [piece?, Scope.shift, meaning,
            Pattern.shift_eq_self d (Atom.groups_meaning? meaning)]
  | flags change => rfl
  | group grouping body ih =>
      cases grouping with
      | capture name =>
          have inner := ih { scope with nextGroup := scope.nextGroup + 1 }
          have start : Scope.shift d { scope with nextGroup := scope.nextGroup + 1 } =
              { scope.shift d with nextGroup := (scope.shift d).nextGroup + 1 } := by
            simp [Scope.shift, Nat.add_right_comm]
          rw [start] at inner
          simp only [piece?, inner]
          cases body.piece? { scope with nextGroup := scope.nextGroup + 1 } with
          | none => rfl
          | some found =>
              simp [Piece.pattern_shift, Pattern.shift, Scope.shift]
      | plain change =>
          have inner := ih { scope with flags := scope.flags.change change }
          have start : Scope.shift d { scope with flags := scope.flags.change change } =
              { scope.shift d with flags := (scope.shift d).flags.change change } := rfl
          rw [start] at inner
          simp only [piece?, inner]
          cases body.piece? { scope with flags := scope.flags.change change } with
          | none => rfl
          | some found => simp [Piece.pattern_shift, Scope.shift]
  | repetition least most greedy body ih =>
      simp only [piece?, ih]
      cases body.piece? scope with
      | none => rfl
      | some found =>
          simp [Piece.pattern_shift, Pattern.repeated_shift, Scope.shift]
  | sequence first rest firstIh restIh =>
      simp only [piece?, firstIh]
      cases first.piece? scope with
      | none => rfl
      | some found =>
          simp only [Option.map_some, Option.bind_eq_bind, Option.bind_some, restIh]
          cases rest.piece? found.2 with
          | none => rfl
          | some more => simp [Piece.pattern_shift, Piece.asParts_shift]
  | choice first rest firstIh restIh =>
      simp only [piece?, firstIh]
      cases first.piece? scope with
      | none => rfl
      | some found =>
          simp only [Option.map_some, Option.bind_eq_bind, Option.bind_some, restIh]
          cases rest.piece? found.2 with
          | none => rfl
          | some more => simp [Piece.pattern_shift, Piece.asBranches_shift]

end ModalLexer
