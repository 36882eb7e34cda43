import ModalLexer.Proofs.Mode.FirstMatch
import ModalLexer.Proofs.Tree.Places

/-! # When the slots of a mode are right

The slot of a variant should begin at the wrapper of that variant and go on through the groups of
its fragment.  Compiling only compares numbers of groups.  That is not enough: the slots are right
exactly if every fragment but the last keeps its groups and does not end in a comment
(`compile_slotsFit_iff`). -/
set_option autoImplicit false
namespace ModalLexer

variable {σ : Type}

/-- What stands behind the fragment of a variant in the joined pattern: what closes its wrapper, and
the variants after it. -/
def Alternative.behind (a : Alternative σ) (after : List (Alternative σ)) : List Char :=
  (if a.rule.options.wordBound then ")\\b)".toList else [')']) ++
    match after with
    | [] => []
    | b :: rest => '|' :: writtenFrom (b :: rest)

/-- A slot belongs to a variant: its first group is opened by the wrapper of the variant, and each
further one where the fragment by itself opens the group of that number; and the branch of the mode
in this position is the wrapper, with that number, around what the variant means by itself. -/
structure SlotFits (mode : CompiledMode σ) (position : Nat) (a : Alternative σ)
    (after : List (Alternative σ)) (slot : Slot) : Prop where
  wrapper : OpensGroup mode.written.toList slot.start (writtenFrom (a :: after))
  inner : ∀ k, 0 < k → k < slot.width → ∃ fragment ∈ a.source.fragment?, ∃ place,
    OpensGroup fragment k place ∧
      OpensGroup mode.written.toList (slot.start + k) (place ++ a.behind after)
  branch : ∃ own ∈ a.pattern?,
    mode.pattern.branches[position]? = some (.group slot.start none (own.shift slot.start))

/-- Each variant has a slot in the place of the table where dispatch looks for it, and the slot
belongs to it. -/
def SlotsFit (mode : CompiledMode σ) (rules : List (Rule σ)) : Prop :=
  ∀ before a after, alternatives rules = before ++ a :: after → ∃ entry slot,
    (targets mode.entries)[before.length]? = some (entry, a.variant, slot) ∧
      entry.kind = a.rule.name ∧ SlotFits mode before.length a after slot

theorem writtenFrom_rows (rows : List (Row σ)) :
    writtenFrom (rows.map Row.alternative) = joined (rows.map Row.branch) := by
  rw [writtenFrom, filterMap_eq_map_of_eq_some Row.written?_eq, joined, List.map_map]
  rfl

theorem Row.endsInComment_iff (r : Row σ) :
    r.alternative.EndsInComment ↔ Reading.EndsInComment r.branch.fragment.text := by
  simp only [Alternative.EndsInComment, r.source_eq, Option.mem_some, exists_eq_left']
  rfl

theorem Row.behind_eq (r : Row σ) (after : List (Row σ)) :
    r.alternative.behind (after.map Row.alternative) = r.branch.behind (after.map Row.branch) := by
  cases after with
  | nil => rfl
  | cons r' rest =>
      have later := writtenFrom_rows (r' :: rest)
      rw [List.map_cons, List.map_cons] at later
      simp only [Alternative.behind, Branch.behind, List.map_cons, later]
      rfl

theorem getElem?_slotted (n : Nat) (before : List (Row σ)) (r : Row σ) (after : List (Row σ)) :
    (slotted n (before ++ r :: after))[before.length]? =
      some (r.entry, r.alternative.variant, r.slot (n + (before.map Row.width).sum)) := by
  rw [slotted_append, List.getElem?_append_right (Nat.le_of_eq (length_slotted n before)),
    length_slotted, Nat.sub_self]
  rfl

theorem length_wrapped (flags : Flags) (n : Nat) (bs : List Branch) :
    (wrapped flags n bs).length = bs.length := by
  induction bs generalizing n with
  | nil => rfl
  | cons b bs ih => rw [wrapped, List.length_cons, ih, List.length_cons]

theorem branches_foldChoice {ps : List Pattern} (nonempty : ps ≠ [])
    (grouped : ∀ p ∈ ps, ∃ index name body, p = .group index name body) :
    (Pattern.foldChoice ps).branches = ps := by
  induction ps with
  | nil => exact absurd rfl nonempty
  | cons p ps ih =>
      obtain ⟨index, name, body, rfl⟩ := grouped p List.mem_cons_self
      cases ps with
      | nil => rfl
      | cons q ps =>
          have later := ih (List.cons_ne_nil q ps) fun p' member =>
            grouped p' (List.mem_cons_of_mem _ member)
          exact congrArg (_ :: ·) later

theorem captures_leading (rows : List (Row σ)) :
    captures (leadingLexemes (rows.map Row.branch)) = (rows.map (·.branch.span)).sum := by
  rw [captures_leadingLexemes, List.map_map]
  rfl

section Rows

variable {mode : CompiledMode σ} {rules : List (Rule σ)} {rows : List (Row σ)}

theorem Compiled.split (compiled : Compiled mode rules rows) {before after : List (Alternative σ)}
    {a : Alternative σ} (order : alternatives rules = before ++ a :: after) :
    ∃ front r back, rows = front ++ r :: back ∧ before = front.map Row.alternative ∧
      a = r.alternative ∧ after = back.map Row.alternative := by
  rw [← compiled.alternatives_eq] at order
  obtain ⟨front, rest, whole, rfl, tail⟩ := List.map_eq_append_iff.1 order
  obtain ⟨r, back, rfl, rfl, rfl⟩ := List.map_eq_cons_iff.1 tail
  exact ⟨front, r, back, whole, rfl, rfl, rfl⟩

/-- If the fragments before a variant keep their groups, the slot of the variant belongs to it. -/
theorem Separate.slotFits (separate : Separate mode rules rows) {before after : List (Row σ)}
    {r : Row σ} (order : rows = before ++ r :: after)
    (kept : ∀ b ∈ before, b.alternative.KeepsGroups) :
    SlotFits mode before.length r.alternative (after.map Row.alternative)
      (r.slot (1 + (before.map Row.width).sum)) := by
  have sums := (sum_width_le before).2.2 kept
  have cleanBefore : ∀ c ∈ before.map Row.branch, ¬ Reading.EndsInComment c.fragment.text := by
    intro c member
    obtain ⟨b, inBefore, rfl⟩ := List.mem_map.1 member
    exact separate.clean b (order ▸ List.mem_append_left _ inBefore)
  have branches : rows.map Row.branch =
      before.map Row.branch ++ r.branch :: after.map Row.branch := by
    rw [order, List.map_append, List.map_cons]
  have inRows : r ∈ rows := order ▸ List.mem_append_right _ List.mem_cons_self
  have written := separate.written_eq
  rw [branches] at written
  refine ⟨?_, ?_, ?_⟩
  · have opened := opensGroup_wrapper (b := r.branch) (after.map Row.branch) cleanBefore
    rw [← written, captures_leading, ← sums, Nat.add_comm] at opened
    have from_row := writtenFrom_rows (r :: after)
    rw [List.map_cons, List.map_cons] at from_row
    rw [from_row]
    exact opened
  · intro k positive narrow
    obtain ⟨k, rfl⟩ := Nat.exists_eq_succ_of_ne_zero (Nat.ne_of_gt positive)
    have enough : k < captures r.branch.fragment.lexemes :=
      Nat.lt_of_succ_lt_succ (Nat.lt_of_lt_of_le narrow r.width_le)
    obtain ⟨place, alone, within⟩ := opensGroup_inner (after.map Row.branch) cleanBefore enough
    refine ⟨_, r.source_eq, place, alone, ?_⟩
    rw [← written, captures_leading, ← sums, Nat.add_comm _ 1, ← r.behind_eq] at within
    exact within
  · refine ⟨_, separate.means r inRows, ?_⟩
    have nonempty : rows.map Row.branch ≠ [] := fun empty =>
      separate.nonempty (List.map_eq_nil_iff.1 empty)
    have number : 1 + ((before.map Row.branch).map Branch.span).sum =
        1 + (before.map Row.width).sum := by
      rw [sums, List.map_map]
      rfl
    have position : before.length = (wrapped .multiLineCrlf 1 (before.map Row.branch)).length := by
      rw [length_wrapped, List.length_map]
    rw [separate.pattern_eq, branches_foldChoice (wrapped_ne_nil _ _ nonempty)
      (wrapped_grouped _ _ _), branches, wrapped_append, number, position,
      List.getElem?_append_right (Nat.le_refl _), Nat.sub_self]
    rfl

/-- If the slots are right, a fragment with another one behind it keeps its groups and does not end
in a comment, provided that the same is true of those before it. -/
theorem SlotsFit.keeps (fits : SlotsFit mode rules) (compiled : Compiled mode rules rows)
    {before after : List (Row σ)} {r next : Row σ} (order : rows = before ++ r :: next :: after)
    (clean : ∀ b ∈ before, ¬ Reading.EndsInComment b.branch.fragment.text) :
    ¬ Reading.EndsInComment r.branch.fragment.text ∧ r.alternative.KeepsGroups := by
  -- What the slot of the next variant says of the place behind this fragment.
  have order' : rows = (before ++ [r]) ++ next :: after := by simpa using order
  have cleanBefore : ∀ c ∈ before.map Row.branch, ¬ Reading.EndsInComment c.fragment.text := by
    intro c member
    obtain ⟨b, inBefore, rfl⟩ := List.mem_map.1 member
    exact clean b inBefore
  obtain ⟨entry, slot, found, -, fit⟩ := fits ((before ++ [r]).map Row.alternative)
    next.alternative (after.map Row.alternative) (by
      rw [← compiled.alternatives_eq, order', List.map_append, List.map_cons])
  rw [List.length_map, compiled.targets_eq, order', getElem?_slotted] at found
  obtain ⟨-, ofNext⟩ := Prod.mk.inj (Option.some.inj found)
  obtain ⟨-, rfl⟩ := Prod.mk.inj ofNext
  have opened := fit.wrapper
  have from_next := writtenFrom_rows (next :: after)
  rw [List.map_cons, List.map_cons] at from_next
  have branches : rows.map Row.branch =
      before.map Row.branch ++ r.branch :: next.branch :: after.map Row.branch := by
    rw [order, List.map_append, List.map_cons, List.map_cons]
  rw [compiled.written_eq, branches, from_next] at opened
  have noComment : ¬ Reading.EndsInComment r.branch.fragment.text := fun comment =>
    not_opensGroup_of_comment _ cleanBefore comment _ opened
  refine ⟨noComment, ?_⟩
  have cleanUpTo : ∀ c ∈ (before ++ [r]).map Row.branch,
      ¬ Reading.EndsInComment c.fragment.text := by
    intro c member
    rw [List.map_append, List.mem_append] at member
    rcases member with earlier | last
    · exact cleanBefore c earlier
    · rw [List.mem_singleton.1 last]
      exact noComment
  -- The wrapper that stands there has a number too, and the two numbers are the same.
  have number := opensGroup_wrapper (b := next.branch) (after.map Row.branch) cleanUpTo
  rw [List.map_append, List.map_singleton, List.append_assoc, List.singleton_append] at number
  have same := opened.unique number
  have counted := captures_leading (before ++ [r])
  rw [List.map_append, List.map_singleton] at counted
  rw [counted, Row.slot_start, Nat.add_comm 1] at same
  exact (sum_width_le (before ++ [r])).2.1 (Nat.succ.inj same) r
    (List.mem_append_right _ List.mem_cons_self)

theorem SlotsFit.keeps_dropLast (fits : SlotsFit mode rules) (compiled : Compiled mode rules rows)
    (before rest : List (Row σ)) (order : rows = before ++ rest)
    (good : ∀ b ∈ before, ¬ Reading.EndsInComment b.branch.fragment.text ∧
      b.alternative.KeepsGroups) :
    ∀ b ∈ rest.dropLast, ¬ Reading.EndsInComment b.branch.fragment.text ∧
      b.alternative.KeepsGroups := by
  induction rest generalizing before with
  | nil => exact fun b member => absurd member List.not_mem_nil
  | cons r rest ih =>
      cases rest with
      | nil => exact fun b member => absurd member List.not_mem_nil
      | cons next after =>
          have this := fits.keeps compiled order fun b member => (good b member).1
          intro b member
          rcases List.mem_cons.1 member with rfl | later
          · exact this
          · refine ih (before ++ [r]) (by simpa using order) ?_ b later
            intro c inBefore
            rcases List.mem_append.1 inBefore with earlier | last
            · exact good c earlier
            · rw [List.mem_singleton.1 last]
              exact this

end Rows

section Compile

variable {name : String} {rules : List (Rule σ)} {resolve : String → Option Nat}
  {mode : CompiledMode σ} (ok : CompiledMode.compile name rules resolve = .ok mode)

include ok

theorem SlotsFit.of_compile (fits : SlotsFit mode rules) :
    ∀ a ∈ (alternatives rules).dropLast, ¬ a.EndsInComment ∧ a.KeepsGroups := by
  obtain ⟨rows, compiled⟩ := compile_rows ok
  rw [← compiled.alternatives_eq, ← List.map_dropLast, List.forall_mem_map]
  intro r member
  rw [r.endsInComment_iff]
  exact fits.keeps_dropLast compiled [] rows rfl
    (fun b inNil => absurd inNil List.not_mem_nil) r member

/-- In a mode that compiles, each variant has a slot that belongs to it exactly if every fragment
but the last keeps its groups and does not end in a comment. -/
theorem compile_slotsFit_iff : SlotsFit mode rules ↔
    ∀ a ∈ (alternatives rules).dropLast, ¬ a.EndsInComment ∧ a.KeepsGroups := by
  refine ⟨SlotsFit.of_compile ok, ?_⟩
  intro good before a after order
  obtain ⟨rows, compiled⟩ := compile_rows ok
  rw [← compiled.alternatives_eq, ← List.map_dropLast, List.forall_mem_map] at good
  have separate := compiled.separate fun r member => by
    rw [← r.endsInComment_iff]
    exact (good r member).1
  -- The slot of a row begins behind the slots of the rows in front of it.
  obtain ⟨front, r, back, whole, rfl, rfl, rfl⟩ := compiled.split order
  refine ⟨r.entry, r.slot (1 + (front.map Row.width).sum), ?_, r.kind_eq, ?_⟩
  · rw [compiled.targets_eq, whole, List.length_map]
    exact getElem?_slotted 1 front r back
  · rw [List.length_map]
    refine separate.slotFits whole fun b member => (good b ?_).2
    rw [whole, List.dropLast_append_of_ne_nil (List.cons_ne_nil r back)]
    exact List.mem_append_left _ member

end Compile

def groupedRules : List (Rule Unit) :=
  [(Rule.regex "word" "(a|b)c").wordBound, .ofVariants "other" [.literal "(", .regex "d(e)?"]]

theorem groupedRules_slotsFit : ∃ mode,
    CompiledMode.compile "main" groupedRules (fun _ => none) = .ok mode ∧
      SlotsFit mode groupedRules := by
  obtain ⟨mode, ok, -⟩ := exists_of_any (p := fun _ => true)
    (x := CompiledMode.compile "main" groupedRules fun _ => none) (by decide)
  exact ⟨mode, ok, (compile_slotsFit_iff ok).2 (by decide)⟩

def commentedRules : List (Rule Unit) := [.regex "a" "(?x)a#", .regex "b" "[\n()]"]

/-- The comment swallows the wrapper of the second rule, and a group inside its brackets takes the
place of the wrapper: the number of groups is right. -/
theorem commentedRules_not_slotsFit : ∃ mode,
    CompiledMode.compile "main" commentedRules (fun _ => none) = .ok mode ∧
      ¬ SlotsFit mode commentedRules := by
  obtain ⟨mode, ok, -⟩ := exists_of_any (p := fun _ => true)
    (x := CompiledMode.compile "main" commentedRules fun _ => none) (by decide)
  have comment : ∃ a ∈ (alternatives commentedRules).dropLast, a.EndsInComment := by decide
  obtain ⟨a, member, swallows⟩ := comment
  exact ⟨mode, ok, fun fits => (SlotsFit.of_compile ok fits a member).1 swallows⟩

end ModalLexer
