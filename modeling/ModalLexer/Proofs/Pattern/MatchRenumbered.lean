import ModalLexer.Proofs.Pattern.Regrouped

/-! # Matching does not look at the numbers of groups

A pattern whose groups are numbered from further on matches in the same ways, and reports the same
groups under their new numbers (`Pattern.run_shift`, `Pattern.first?_shift`). -/
set_option autoImplicit false
namespace ModalLexer

/-- The same path with other numbers for its groups. -/
def Path.shift (d : Nat) (p : Path) : Path :=
  { p with groups := p.groups.map fun (index, extent) => (index + d, extent) }

namespace Path

variable (d : Nat) (p : Path)

@[simp] theorem spot_shift : (p.shift d).spot = p.spot := rfl

@[simp] theorem start_shift (s : Spot) : (start s).shift d = start s := rfl

theorem group?_shift (index : Nat) : (p.shift d).group? (index + d) = p.group? index := by
  simp only [group?, shift]
  induction p.groups with
  | nil => rfl
  | cons g gs ih =>
      obtain ⟨number, extent⟩ := g
      simp only [List.map_cons, List.lookup_cons, ih]
      have same : (index + d == number + d) = (index == number) := by
        simp [Bool.beq_eq_decide_eq]
      rw [same]

theorem group?_shift_of_lt {index : Nat} (below : index < d) : (p.shift d).group? index = none := by
  simp only [group?, shift]
  induction p.groups with
  | nil => rfl
  | cons g gs ih =>
      have other : (index == g.1 + d) = false := beq_eq_false_iff_ne.2 (by omega)
      simp only [List.map_cons, List.lookup_cons, other, ih]

end Path

namespace Pattern

/-- Groups numbered from further on match in the same ways. -/
theorem run_shift (d : Nat) (place : Option Address) (pattern : Pattern) (p : Path) :
    (pattern.shift d).run place (p.shift d) = (pattern.run place p).map (Path.shift d) := by
  have same : Regroups (List.map fun (index, extent) => (index + d, extent)) (pattern.run place)
      ((pattern.shift d).run place) := run_regroup (fun _ _ _ => rfl) place pattern
  exact same p

theorem first?_shift (d : Nat) (p : Pattern) (s : Spot) :
    (p.shift d).first? s = (p.first? s).map (Path.shift d) := by
  have ways := run_shift d none p (.start s)
  rw [Path.start_shift] at ways
  rw [first?_eq_head?, first?_eq_head?, ways, List.head?_map]

end Pattern

end ModalLexer
