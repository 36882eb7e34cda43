import Mathlib.Data.List.Range
import ModalLexer.Proofs.Mode.Faults
import ModalLexer.Proofs.Mode.FirstMatch

/-! # Groups without gaps

A mode compiles only if its slots have room for just the groups that its pattern has.  So the numbers
of the groups that are left in a fragment have no gaps (`Separate.dense`), and what can be read in a
mode that compiles, a fragment or a branch of one, compiles as a rule of its own
(`CompiledMode.exists_compile_only`). -/
set_option autoImplicit false
namespace ModalLexer

open Reading

variable {σ : Type}

/-- Numbers that go up are as many as the last of them says just if there are no gaps. -/
theorem add_length_le_foldl_max {ns : List Nat} {n : Nat} (sorted : ns.Pairwise (· < ·))
    (above : ∀ m ∈ ns, n < m) : n + ns.length ≤ ns.foldl max n ∧
      (n + ns.length = ns.foldl max n ↔ ns = List.range' (n + 1) ns.length) := by
  induction ns generalizing n with
  | nil => simp
  | cons m ns ih =>
      rw [List.pairwise_cons] at sorted
      rw [List.forall_mem_cons] at above
      obtain ⟨le, same⟩ := ih sorted.2 sorted.1
      have top : max n m = m := Nat.max_eq_right (Nat.le_of_lt above.1)
      have next := above.1
      rw [List.foldl_cons, top, List.length_cons, List.range'_succ, List.cons.injEq]
      refine ⟨by omega, fun equal => ?_, ?_⟩
      · obtain rfl : m = n + 1 := by omega
        exact ⟨rfl, same.1 (by omega)⟩
      · rintro ⟨rfl, rest⟩
        have equal := same.2 rest
        omega

namespace Tree

/-- The numbers of the groups of a written pattern have no gaps. -/
def Dense (tree : Tree) : Prop :=
  (tree.groups 1).map (·.1) = List.range' 1 (tree.groups 1).length

theorem length_groups_le (tree : Tree) :
    (tree.groups 1).length ≤ ((tree.groups 1).map (·.1)).foldl max 0 ∧
      ((tree.groups 1).length = ((tree.groups 1).map (·.1)).foldl max 0 ↔ tree.Dense) := by
  obtain ⟨sorted, within⟩ := tree.groups_sorted 1
  have whole := add_length_le_foldl_max (n := 0) sorted (List.forall_mem_map.2 fun g member =>
    (within g member).1)
  rw [Nat.zero_add, Nat.zero_add, List.length_map] at whole
  exact whole

theorem length_groups_le_captures (tree : Tree) : (tree.groups 1).length ≤ tree.captures := by
  refine tree.length_groups_le.1.trans (foldl_max_le_iff.2 ⟨Nat.zero_le _, ?_⟩)
  rw [List.forall_mem_map]
  intro g member
  have := ((tree.groups_sorted 1).2 g member).2
  omega

theorem length_groups (tree : Tree) (n : Nat) :
    (tree.groups (1 + n)).length = (tree.groups 1).length := by
  rw [groups_add, List.length_map]

theorem Dense.of_orElse {t u : Tree} (dense : (t.orElse u).Dense) : t.Dense ∧ u.Dense := by
  have split : (t.groups 1).map (·.1) ++ ((u.groups 1).map (·.1)).map (· + t.captures) =
      List.range' 1 (t.groups 1).length ++
        List.range' (1 + (t.groups 1).length) (u.groups 1).length := by
    have whole := dense
    rw [Dense, groups_orElse, groups_add, List.map_append, List.length_append, List.length_map,
      List.map_map, ← List.range'_append_1] at whole
    rw [List.map_map]
    exact whole
  obtain ⟨first, rest⟩ := List.append_inj split (by rw [List.length_map, List.length_range'])
  refine ⟨first, ?_⟩
  cases groups : u.groups 1 with
  | nil => rw [Dense, groups]; rfl
  | cons g more =>
      -- The groups of the second pattern go on where those of the first end.
      have least := ((u.groups_sorted 1).2 g (groups ▸ List.mem_cons_self)).1
      have bound := t.length_groups_le_captures
      have heads := congrArg List.head? rest
      rw [groups, List.length_cons, List.range'_succ] at heads
      have head : g.1 + t.captures = 1 + (t.groups 1).length := Option.some.inj heads
      have all : (t.groups 1).length = t.captures := by omega
      have shifted : List.range' (1 + t.captures) (u.groups 1).length =
          (List.range' 1 (u.groups 1).length).map (· + t.captures) := by
        rw [Nat.add_comm 1, ← List.map_add_range']
        exact List.map_congr_left fun n _ => Nat.add_comm _ _
      rw [all, shifted] at rest
      exact List.map_injective_iff.2 (fun _ _ => Nat.add_right_cancel) rest

theorem Dense.of_anyOf {trees : List Tree} (dense : (anyOf trees).Dense) :
    ∀ t ∈ trees, t.Dense := by
  induction trees with
  | nil => exact fun _ member => absurd member List.not_mem_nil
  | cons t trees ih =>
      cases trees with
      | nil => exact List.forall_mem_singleton.2 dense
      | cons u trees =>
          obtain ⟨first, rest⟩ := dense.of_orElse
          exact List.forall_mem_cons.2 ⟨first, ih rest⟩

theorem length_groups_joinedTree (bs : List Branch) (n : Nat) :
    ((joinedTree bs).groups n).length =
      (bs.map fun b => (b.fragment.tree.groups 1).length + 1).sum := by
  have wrapper (b : Branch) (m : Nat) :
      (b.tree.groups m).length = (b.fragment.tree.groups 1).length + 1 := by
    rw [Branch.tree, groups, b.groups_own, List.length_cons, Nat.add_comm m, length_groups]
  induction bs generalizing n with
  | nil => rfl
  | cons b bs ih =>
      cases bs with
      | nil =>
          rw [List.map_singleton, List.sum_singleton]
          exact wrapper b n
      | cons c bs =>
          have unfolded : joinedTree (b :: c :: bs) = .choice b.tree (joinedTree (c :: bs)) := rfl
          rw [unfolded, groups, List.length_append, wrapper, ih]
          exact List.sum_cons.symm

end Tree

/-! ## Modes that compile -/

theorem Row.length_groups_lt (r : Row σ) : (r.fragment.tree.groups 1).length + 1 ≤ r.width ∧
    ((r.fragment.tree.groups 1).length + 1 = r.width ↔ r.fragment.tree.Dense) := by
  have width : r.width = (r.pattern.groups.map (·.1)).foldl max 0 + 1 := rfl
  obtain ⟨le, same⟩ := r.fragment.tree.length_groups_le
  rw [width, r.groups_eq, Nat.add_right_cancel_iff]
  exact ⟨Nat.add_le_add_right le 1, same⟩

/-- There are no more groups than slots have room for, and as many only if there are no gaps. -/
theorem sum_length_groups_le (rows : List (Row σ)) :
    (rows.map fun r => (r.fragment.tree.groups 1).length + 1).sum ≤ (rows.map Row.width).sum ∧
      ((rows.map fun r => (r.fragment.tree.groups 1).length + 1).sum = (rows.map Row.width).sum ↔
        ∀ r ∈ rows, r.fragment.tree.Dense) := by
  induction rows with
  | nil => simp
  | cons r rows ih =>
      obtain ⟨le, same⟩ := ih
      obtain ⟨narrow, alone⟩ := r.length_groups_lt
      rw [List.forall_mem_cons, ← alone, ← same, List.map_cons, List.sum_cons, List.map_cons,
        List.sum_cons]
      omega

theorem Compiled.expectedSlots_eq {mode : CompiledMode σ} {rules : List (Rule σ)}
    {rows : List (Row σ)} (compiled : Compiled mode rules rows) :
    expectedSlots rules = 1 + (rows.map Row.width).sum := by
  rw [expectedSlots, ← compiled.alternatives_eq, Row.filterMap_slotWidth?_rows]

/-- In a mode that compiles the slots have room for just the groups that there are. -/
theorem CompiledMode.length_groups_of_compile {name : String} {rules : List (Rule σ)}
    {resolve : String → Option Nat} {mode : CompiledMode σ}
    (ok : compile name rules resolve = .ok mode) :
    mode.pattern.groups.length + 1 = expectedSlots rules := by
  unfold compile at ok
  split at ok
  · cases ok
  · obtain ⟨laid, laidOk, ok⟩ := bind_eq_ok ok
    simp only [join] at ok
    split at ok
    · cases ok
    · split at ok
      · next fits =>
          obtain rfl := Except.ok.inj ok
          rw [← (layRules_result laidOk).2]
          exact fits
      · cases ok

theorem Separate.joined {mode : CompiledMode σ} {rules : List (Rule σ)} {rows : List (Row σ)}
    (separate : Separate mode rules rows) :
    (joinedTree (rows.map Row.branch)).depth ≤ Tree.deepest ∧
      (joinedTree (rows.map Row.branch)).meaning? .multiLineCrlf = some mode.pattern := by
  have nonempty : rows.map Row.branch ≠ [] := fun empty =>
    separate.nonempty (List.map_eq_nil_iff.1 empty)
  have clean : ∀ b ∈ (rows.map Row.branch).dropLast, ¬ EndsInComment b.fragment.text := by
    rw [← List.map_dropLast, List.forall_mem_map]
    exact fun r member => separate.clean r (List.mem_of_mem_dropLast member)
  obtain ⟨tree, treeRead, meant⟩ := Option.bind_eq_some_iff.1 separate.read
  obtain ⟨-, rfl, -, shallow⟩ := joined_read? nonempty clean treeRead
  exact ⟨shallow, meant⟩

theorem Separate.dense {name : String} {rules : List (Rule σ)} {resolve : String → Option Nat}
    {mode : CompiledMode σ} {rows : List (Row σ)} (separate : Separate mode rules rows)
    (ok : CompiledMode.compile name rules resolve = .ok mode) :
    ∀ r ∈ rows, r.fragment.tree.Dense := by
  have count := CompiledMode.length_groups_of_compile ok
  rw [Tree.groups_meaning? separate.joined.2, Tree.length_groups_joinedTree,
    separate.expectedSlots_eq, List.map_map, Nat.add_comm, Nat.add_left_cancel_iff] at count
  exact (sum_length_groups_le rows).2.1 count

/-! ## Rules of one source -/

def Rule.only (rule : Rule σ) (source : Source) : Rule σ := { rule with variants := [source] }

namespace CompiledMode

variable {resolve : String → Option Nat} {rule : Rule σ} {source : Source} {b : Branch}

theorem exists_layRules_only {pattern : Pattern} {j : Jump}
    (written : source.fragment? = some b.fragment.text)
    (bound : b.wordBound = rule.options.wordBound)
    (read : Pattern.read? .standard b.fragment.text = some pattern)
    (found : jump resolve rule = .ok j) (name : String) :
    ∃ laid, layRules name resolve [] 1 [rule.only source] = .ok laid ∧
      laid.alternatives = [b.text] ∧ laid.nextSlot = (Slot.ofGroups 1 pattern.groups).stop := by
  have variant : layVariant (rule.only source) 1 source = .ok
      ⟨Slot.ofGroups 1 pattern.groups, [b.text], (Slot.ofGroups 1 pattern.groups).stop⟩ := by
    simp only [layVariant, written, read]
    rw [Branch.text, bound]
    rfl
  have jumps : jump resolve (rule.only source) = .ok j := found
  have variants : (rule.only source).variants = [source] := rfl
  refine ⟨⟨[⟨rule.name, [Slot.ofGroups 1 pattern.groups], rule.options.discard,
    rule.options.error, rule.options.lineBreaks, j, rule.options.value⟩], [b.text],
    (Slot.ofGroups 1 pattern.groups).stop⟩, ?_, rfl, rfl⟩
  simp only [layRules, layRule, variants, layVariants, variant, jumps, bind, Except.bind]
  rfl

/-- A source compiles as a rule of its own if its branch can be read and means something, and the
numbers of its groups have no gaps. -/
theorem exists_compile_only {j : Jump} (written : source.fragment? = some b.fragment.text)
    (bound : b.wordBound = rule.options.wordBound) (valid : source.Valid)
    (clean : ¬ EndsInComment b.fragment.text) (distinct : (Tree.groupNames b.lexemes).Nodup)
    (shallow : b.tree.depth ≤ Tree.deepest)
    (means : (b.own.meaning? .multiLineCrlf).isSome = true) (dense : b.fragment.tree.Dense)
    (found : jump resolve rule = .ok j) (name : String) :
    ∃ own, compile name [rule.only source] resolve = .ok own := by
  obtain ⟨text, pattern, written', read⟩ := valid
  obtain rfl := Option.some.inj (written.symm.trans written')
  obtain ⟨laid, laidOk, texts, slots⟩ := exists_layRules_only written bound read found name
  let whole : Fragment := ⟨joined [b], joinedLexemes [b], joinedTree [b],
    joined_lexed (List.cons_ne_nil b []) (List.forall_mem_singleton.2 clean),
    joined_built (List.cons_ne_nil b [])⟩
  have treeRead : Tree.read? (joinBars laid.alternatives) = some b.tree := by
    rw [texts]
    exact whole.read? distinct shallow
  have meaning : (b.tree.meaning? .multiLineCrlf).isSome = true := by
    obtain ⟨p, meant⟩ := Option.isSome_iff_exists.1 means
    rw [Tree.meaning?, b.piece?_tree, meant]
    rfl
  have count : (b.tree.groups 1).length + 1 = laid.nextSlot := by
    obtain ⟨tree, ownRead, meant⟩ := Option.bind_eq_some_iff.1 read
    obtain ⟨own, text, rfl, -, -⟩ := Fragment.of_read? ownRead
    obtain rfl := own.ext_of_text text
    have one := Tree.length_groups_joinedTree [b] 1
    have last := (b.fragment.tree.length_groups_le).2.2 dense
    rw [List.map_singleton, List.sum_singleton] at one
    rw [slots, Slot.stop, Slot.ofGroups, Tree.groups_meaning? meant, ← last]
    exact (congrArg (· + 1) one).trans (Nat.add_comm _ 1)
  obtain ⟨own, joins⟩ : ∃ own, join name laid = .ok own := exists_join treeRead meaning count
  refine ⟨own, ?_⟩
  rw [compile, if_neg (by simp), laidOk]
  exact joins

end CompiledMode

end ModalLexer
