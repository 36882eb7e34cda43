import ModalLexer.Proofs.Mode.Combined
import ModalLexer.Proofs.Pattern.GroupNames

/-! # Slots side by side

The slots of a mode lie side by side from group 1 up to the last group of the joined pattern, one
for each variant of each rule, and the groups of a variant are read from its slot alone
(`compile_partitioned`).  They go by position just if the fragment names no group, and else by just
the names that it gives, unless a group that it names stands in a repetition of zero rounds. -/
set_option autoImplicit false
namespace ModalLexer

variable {σ : Type}

/-- Slots side by side from group `start` on, each with a group at least; `stop` is behind the
last. -/
inductive Consecutive : Nat → List Slot → Nat → Prop
  | none (stop : Nat) : Consecutive stop [] stop
  | next (s : Slot) {rest : List Slot} {stop : Nat} (some_group : 1 ≤ s.width)
      (later : Consecutive s.stop rest stop) : Consecutive s.start (s :: rest) stop

namespace Alternative

/-- The capture groups that the fragment of the variant opens, in order, each with its name if it is
given one. -/
def captureNames (a : Alternative σ) : List (Option String) :=
  ((a.source.fragment?.bind Reading.lexemes?).map ModalLexer.captureNames).getD []

/-- No group that the fragment of the variant names stands in a repetition of zero rounds. -/
def KeepsNames (a : Alternative σ) : Prop :=
  ∀ tree ∈ a.source.fragment?.bind Tree.read?, tree.keepsNames = true

instance (a : Alternative σ) : Decidable a.KeepsNames :=
  inferInstanceAs (Decidable (∀ tree ∈ a.source.fragment?.bind Tree.read?, tree.keepsNames = true))

end Alternative

namespace Slot

/-- Groups by position if no names are declared, as many as the slot has behind the one around the
variant; and else one group for each declared name. -/
def Reports (s : Slot) (declared : List String) : Groups → Prop
  | .positional texts => declared = [] ∧ texts.length = s.width - 1
  | .named entries => declared ≠ [] ∧ entries.map (·.1) = declared

/-- What a slot says of the groups of a variant. -/
structure Serves (s : Slot) (a : Alternative σ) : Prop where
  distinct : (s.names.map (·.1)).Nodup
  ascending : (s.names.map (·.2)).Pairwise (· < ·)
  numbered : ∀ named ∈ s.names, 1 ≤ named.2 ∧ named.2 < s.width ∧
    a.captureNames[named.2 - 1]? = some (some named.1)
  reads : ∀ p q : Path, (∀ k, s.start < k → k < s.stop → p.group? k = q.group? k) →
    s.groups p = s.groups q
  reports : ∀ p, s.Reports a.groupNames (s.groups p) ↔ a.KeepsNames

variable (start : Nat) (groups : List (Nat × Option String))

theorem names_ofGroups : (ofGroups start groups).names.map (·.1) = groups.filterMap (·.2) := by
  rw [ofGroups, List.map_filterMap]
  congr 1
  funext g
  obtain ⟨index, name⟩ := g
  cases name <;> rfl

theorem indices_sublist :
    ((ofGroups start groups).names.map (·.2)).Sublist (groups.map (·.1)) := by
  induction groups with
  | nil => exact .slnil
  | cons g rest ih =>
      obtain ⟨index, name⟩ := g
      cases name with
      | none => exact ih.cons index
      | some given => exact ih.cons_cons index

theorem mem_names_ofGroups {named : String × Nat} :
    named ∈ (ofGroups start groups).names ↔ (named.2, some named.1) ∈ groups := by
  simp only [ofGroups, List.mem_filterMap, Option.map_eq_some_iff]
  constructor
  · rintro ⟨⟨index, name⟩, member, given, rfl, rfl⟩
    exact member
  · intro member
    exact ⟨_, member, named.1, rfl, rfl⟩

theorem lt_width_of_mem {g : Nat × Option String} (member : g ∈ groups) :
    g.1 < (ofGroups start groups).width :=
  Nat.lt_succ_of_le ((foldl_max_le_iff.1 (Nat.le_refl _)).2 g.1 (List.mem_map_of_mem member))

theorem groups_congr {s : Slot} (within : ∀ named ∈ s.names, 1 ≤ named.2 ∧ named.2 < s.width)
    {p q : Path} (same : ∀ k, s.start < k → k < s.stop → p.group? k = q.group? k) :
    s.groups p = s.groups q := by
  have text (relative : Nat) (low : 1 ≤ relative) (high : relative < s.width) :
      s.text? p relative = s.text? q relative := by
    rw [text?, text?, same (s.start + relative) (by omega) (Nat.add_lt_add_left high _)]
  rw [Slot.groups, Slot.groups]
  split
  · congr 1
    apply List.map_congr_left
    intro k member
    have := List.mem_range.1 member
    exact text (k + 1) (by omega) (by omega)
  · congr 1
    apply List.map_congr_left
    intro named member
    obtain ⟨low, high⟩ := within named member
    exact congrArg (named.1, ·) (text named.2 low high)

theorem reports_groups_iff (s : Slot) (declared : List String) (p : Path) :
    s.Reports declared (s.groups p) ↔ s.names.map (·.1) = declared := by
  rw [Slot.groups]
  split
  · next unnamed =>
      have length : ((List.range (s.width - 1)).map fun k => s.text? p (k + 1)).length =
          s.width - 1 := by
        rw [List.length_map, List.length_range]
      rw [List.isEmpty_iff.1 unnamed, List.map_nil, Reports, and_iff_left length, eq_comm]
  · next named =>
      have keys : (s.names.map fun named => (named.1, s.text? p named.2)).map (·.1) =
          s.names.map (·.1) := List.map_map
      rw [Reports, keys]
      refine and_iff_right_of_imp ?_
      rintro rfl empty
      exact named (List.isEmpty_iff.2 (List.map_eq_nil_iff.1 empty))

end Slot

/-! ## Rows -/

namespace Row

variable (r : Row σ)

theorem captureNames_eq : r.alternative.captureNames = r.fragment.tree.captureNames := by
  rw [Alternative.captureNames, r.source_eq, Option.bind_some, r.fragment.lexed,
    Tree.captureNames_ofLexemes? r.fragment.built]
  rfl

theorem groupNames_eq_givenNames : r.alternative.groupNames = r.fragment.tree.givenNames := by
  rw [groupNames_eq, Tree.givenNames, Tree.captureNames_ofLexemes? r.fragment.built]
  exact Tree.groupNames_eq r.fragment.lexemes

theorem read?_fragment : Tree.read? r.fragment.text = some r.fragment.tree := by
  obtain ⟨tree, read, -⟩ := Option.bind_eq_some_iff.1 r.read
  obtain ⟨own, text, built, -, -⟩ := Fragment.of_read? read
  obtain rfl := own.ext_of_text text
  exact built ▸ read

theorem keepsNames_iff : r.alternative.KeepsNames ↔ r.fragment.tree.keepsNames = true := by
  rw [Alternative.KeepsNames, r.source_eq, Option.bind_some, r.read?_fragment]
  simp

theorem distinct_groupNames : r.alternative.groupNames.Nodup := by
  obtain ⟨own, text, -, distinct, -⟩ := Fragment.of_read? r.read?_fragment
  obtain rfl := own.ext_of_text text
  rw [r.groupNames_eq]
  exact distinct

theorem names_slot (start : Nat) :
    (r.slot start).names.map (·.1) = r.fragment.tree.keptNames 1 := by
  rw [slot, Slot.names_ofGroups, r.groups_eq, Tree.keptNames]

theorem serves (start : Nat) : (r.slot start).Serves r.alternative := by
  have numbered : ∀ named ∈ (r.slot start).names, 1 ≤ named.2 ∧ named.2 < (r.slot start).width ∧
      r.alternative.captureNames[named.2 - 1]? = some (some named.1) := by
    intro named member
    have left := (Slot.mem_names_ofGroups start r.pattern.groups).1 member
    have width := Slot.lt_width_of_mem start r.pattern.groups left
    rw [r.groups_eq] at left
    obtain ⟨low, written⟩ := Tree.captureNames_of_mem_groups left
    exact ⟨low, width, r.captureNames_eq ▸ written⟩
  constructor
  case distinct =>
    rw [r.names_slot]
    apply (r.fragment.tree.keptNames_sublist 1).nodup
    rw [← r.groupNames_eq_givenNames]
    exact r.distinct_groupNames
  case ascending =>
    refine List.Pairwise.sublist (Slot.indices_sublist start r.pattern.groups) ?_
    rw [r.groups_eq]
    exact (r.fragment.tree.groups_sorted 1).1
  case numbered => exact numbered
  case reads =>
    intro p q same
    apply Slot.groups_congr _ same
    intro named member
    exact ⟨(numbered named member).1, (numbered named member).2.1⟩
  case reports =>
    intro p
    rw [Slot.reports_groups_iff, r.names_slot, r.groupNames_eq_givenNames, r.keepsNames_iff]
    exact r.fragment.tree.keptNames_eq_iff 1

end Row

theorem consecutive_slotted (start : Nat) (rows : List (Row σ)) :
    Consecutive start ((slotted start rows).map (·.2.2)) (start + (rows.map Row.width).sum) := by
  induction rows generalizing start with
  | nil => exact .none start
  | cons r rows ih =>
      rw [List.map_cons, List.sum_cons, ← Nat.add_assoc]
      exact .next (r.slot start) (Nat.le_add_left 1 _) (ih _)

/-- A slot stands in the table for a variant of a rule, and serves it. -/
structure Alternative.ServedBy (a : Alternative σ) (t : Target σ) : Prop where
  kind : t.1.kind = a.rule.name
  variant : t.2.1 = a.variant
  slot : t.2.2.Serves a

theorem servedBy_slotted (start : Nat) (rows : List (Row σ)) :
    List.Forall₂ Alternative.ServedBy (rows.map Row.alternative) (slotted start rows) := by
  induction rows generalizing start with
  | nil => exact .nil
  | cons r rows ih => exact .cons ⟨r.kind_eq, rfl, r.serves start⟩ (ih _)

/-- In a mode that compiles, the slots of all variants of all rules, in order, lie side by side from
group 1 up to the last group of the joined pattern.  The names of a slot differ, their numbers go up,
and each is the number that the group of that name has in the fragment by itself.  The groups of a
variant are read from its slot alone.  If and only if the fragment names no group in a repetition of
zero rounds, they go by position, all groups of the slot, where the fragment names no group, and else
by just the names that it gives. -/
theorem compile_partitioned {name : String} {rules : List (Rule σ)}
    {resolve : String → Option Nat} {mode : CompiledMode σ}
    (ok : CompiledMode.compile name rules resolve = .ok mode) :
    targets mode.entries ≠ [] ∧
      Consecutive 1 ((targets mode.entries).map (·.2.2)) (mode.pattern.groups.length + 1) ∧
      List.Forall₂ Alternative.ServedBy (alternatives rules) (targets mode.entries) := by
  obtain ⟨rows, compiled⟩ := compile_rows ok
  have count : mode.pattern.groups.length + 1 = 1 + (rows.map Row.width).sum :=
    (CompiledMode.length_groups_of_compile ok).trans compiled.expectedSlots_eq
  rw [compiled.targets_eq, count, ← compiled.alternatives_eq]
  refine ⟨?_, consecutive_slotted 1 rows, servedBy_slotted 1 rows⟩
  -- A table without slots would come of a mode without rows.
  intro empty
  have length := length_slotted 1 rows
  rw [empty] at length
  exact compiled.nonempty (List.length_eq_zero_iff.1 length.symm)

def pairedRules : List (Rule Unit) :=
  [.ofVariants "pair" [.regex "(a)(b)", .regex "c"],
    .regex "date" "(?<year>[0-9]+)-(?<month>[0-9]+)"]

/-- The dates have groups 5 to 7, behind the slots of the two variants. -/
theorem pairedRules_partitioned : ∃ mode,
    CompiledMode.compile "main" pairedRules (fun _ => none) = .ok mode ∧
      (targets mode.entries).map (·.2.2) =
        [⟨1, 3, []⟩, ⟨4, 1, []⟩, ⟨5, 3, [("year", 1), ("month", 2)]⟩] ∧
      Consecutive 1 ((targets mode.entries).map (·.2.2)) (mode.pattern.groups.length + 1) ∧
      mode.pattern.groups.length = 7 ∧ (∀ a ∈ alternatives pairedRules, a.KeepsNames) ∧
      List.Forall₂ Alternative.ServedBy (alternatives pairedRules) (targets mode.entries) := by
  obtain ⟨mode, ok, found⟩ := exists_of_any
    (p := fun mode => decide ((targets mode.entries).map (·.2.2) =
      [⟨1, 3, []⟩, ⟨4, 1, []⟩, ⟨5, 3, [("year", 1), ("month", 2)]⟩] ∧
        mode.pattern.groups.length = 7))
    (x := CompiledMode.compile "main" pairedRules fun _ => none) (by decide +kernel)
  obtain ⟨slots, count⟩ := of_decide_eq_true found
  obtain ⟨-, side, served⟩ := compile_partitioned ok
  exact ⟨mode, ok, slots, side, count, by decide +kernel, served⟩

def lostNameRules : List (Rule Unit) := [.regex "t" "(?<n>a){0}b"]

/-- The fragment names a group, and the slot gives groups by position, of which there are none. -/
theorem lostNameRules_partitioned : ∃ mode,
    CompiledMode.compile "main" lostNameRules (fun _ => none) = .ok mode ∧
      (alternatives lostNameRules).map Alternative.groupNames = [["n"]] ∧
      ∃ slot, (targets mode.entries).map (·.2.2) = [slot] ∧
        ∀ p, slot.groups p = .positional [] ∧ ¬ slot.Reports ["n"] (slot.groups p) := by
  obtain ⟨mode, ok, slots⟩ := exists_of_any
    (p := fun mode => decide ((targets mode.entries).map (·.2.2) = [⟨1, 1, []⟩]))
    (x := CompiledMode.compile "main" lostNameRules fun _ => none) (by decide)
  refine ⟨mode, ok, by decide, _, of_decide_eq_true slots, fun p => ⟨rfl, ?_⟩⟩
  exact fun reported => List.cons_ne_nil _ _ reported.1

end ModalLexer
