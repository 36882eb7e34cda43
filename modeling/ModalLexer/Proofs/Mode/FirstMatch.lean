import Mathlib.Data.List.TakeWhile
import ModalLexer.Proofs.Mode.Alone

/-! # The first variant that matches wins

Matching all variants of a mode at once should come to the same as trying them in order.  It does
wherever the variants that are passed over keep their groups (`compile_report?_iff`).  A fragment
that ends in a group repeated zero times gets a slot without that group, while the joined pattern
still counts its parenthesis; the slots behind it then begin too early, and a match of one of their
variants is taken for something else. -/
set_option autoImplicit false
namespace ModalLexer

variable {σ : Type}

theorem foldl_max_le_iff {ns : List Nat} {n bound : Nat} :
    ns.foldl max n ≤ bound ↔ n ≤ bound ∧ ∀ m ∈ ns, m ≤ bound := by
  induction ns generalizing n with
  | nil => exact (and_iff_left nofun).symm
  | cons m ns ih => rw [List.foldl_cons, ih, Nat.max_le, List.forall_mem_cons, and_assoc]

namespace Row

variable (r : Row σ)

theorem width_le : r.width ≤ r.branch.span := by
  have counted := Tree.captures_ofLexemes? r.fragment.built
  refine Nat.succ_le_succ (foldl_max_le_iff.2 ⟨Nat.zero_le _, ?_⟩)
  intro n member
  rw [r.groups_eq] at member
  obtain ⟨g, inside, rfl⟩ := List.mem_map.1 member
  have := (r.fragment.tree.groups_sorted 1).2 g inside
  have spelled : r.branch.fragment = r.fragment := rfl
  rw [spelled, ← counted]
  omega

theorem keepsGroups_iff : r.alternative.KeepsGroups ↔ r.width = r.branch.span := by
  simp only [Alternative.KeepsGroups, Alternative.slotWidth?, Alternative.captures?, r.source_eq,
    Option.bind_some, r.read, r.fragment.lexed, Option.map_some, Option.some.injEq]
  rfl

end Row

/-- Slots take no more numbers than the branches do, and as many only if all groups are kept. -/
theorem sum_width_le (rows : List (Row σ)) :
    (rows.map Row.width).sum ≤ (rows.map (·.branch.span)).sum ∧
      ((rows.map Row.width).sum = (rows.map (·.branch.span)).sum ↔
        ∀ r ∈ rows, r.alternative.KeepsGroups) := by
  induction rows with
  | nil => simp
  | cons r rows ih =>
      obtain ⟨le, same⟩ := ih
      have narrow := r.width_le
      rw [List.forall_mem_cons, r.keepsGroups_iff, ← same, List.map_cons, List.sum_cons,
        List.map_cons, List.sum_cons]
      generalize r.width = w at narrow ⊢
      generalize r.branch.span = v at narrow ⊢
      omega

theorem mem_slotted {n : Nat} {rows : List (Row σ)} {t : Target σ} (member : t ∈ slotted n rows) :
    (∃ r ∈ rows, t.1 = r.entry ∧ t.2.1 = r.alternative.variant) ∧
      t.2.2.start < n + (rows.map Row.width).sum := by
  induction rows generalizing n with
  | nil => cases member
  | cons r rows ih =>
      have wide : 0 < r.width := Nat.succ_pos _
      rcases List.mem_cons.1 member with rfl | later
      · refine ⟨⟨r, List.mem_cons_self, rfl, rfl⟩, ?_⟩
        simp only [Row.slot_start, List.map_cons, List.sum_cons]
        omega
      · obtain ⟨⟨r', inRest, same⟩, below⟩ := ih later
        refine ⟨⟨r', List.mem_cons_of_mem r inRest, same⟩, ?_⟩
        simp only [List.map_cons, List.sum_cons]
        omega

/-! ## The groups of a match -/

section Wrapped

variable (n : Nat) (path : Path) (s : Spot)

/-- The match of a wrapper with the number `n`, from the match of its branch by itself. -/
def wrapMatch : Path := (path.shift n).close n s

theorem group?_wrapMatch_of_lt {index : Nat} (below : index < n) :
    (wrapMatch n path s).group? index = none := by
  have other : (index == n) = false := beq_eq_false_iff_ne.2 (Nat.ne_of_lt below)
  have later := path.group?_shift_of_lt n below
  simp only [Path.group?] at later ⊢
  simp [wrapMatch, Path.close, List.lookup_cons, other, later]

theorem group?_wrapMatch_self : (wrapMatch n path s).group? n = some ⟨s, path.spot⟩ := by
  simp [wrapMatch, Path.group?, Path.close]

theorem group?_wrapMatch_of_pos {index : Nat} (positive : 0 < index) :
    (wrapMatch n path s).group? (n + index) = path.group? index := by
  have other : (n + index == n) = false := beq_eq_false_iff_ne.2 (by omega)
  have later := path.group?_shift n index
  rw [Nat.add_comm index n] at later
  simp only [Path.group?] at later ⊢
  simp [wrapMatch, Path.close, List.lookup_cons, other, later]

theorem Slot.groups_wrapMatch (start : Nat) {gs : List (Nat × Option String)}
    (positive : ∀ g ∈ gs, 0 < g.1) :
    (Slot.ofGroups start gs).groups (wrapMatch start path s) =
      (Slot.ofGroups 0 gs).groups path := by
  have text (k : Nat) (pos : 0 < k) : (Slot.ofGroups start gs).text? (wrapMatch start path s) k =
      (Slot.ofGroups 0 gs).text? path k := by
    simp [Slot.text?, Slot.ofGroups, group?_wrapMatch_of_pos start path s pos]
  have named : ∀ entry ∈ (Slot.ofGroups 0 gs).names, 0 < entry.2 := by
    intro entry member
    obtain ⟨g, inside, same⟩ := List.mem_filterMap.1 member
    obtain ⟨name, -, rfl⟩ := Option.map_eq_some_iff.1 same
    exact positive g inside
  have names_eq : (Slot.ofGroups start gs).names = (Slot.ofGroups 0 gs).names := rfl
  have width_eq : (Slot.ofGroups start gs).width = (Slot.ofGroups 0 gs).width := rfl
  unfold Slot.groups
  rw [names_eq, width_eq]
  split
  · exact congrArg Groups.positional (List.map_congr_left fun k _ => text (k + 1) (Nat.succ_pos k))
  · refine congrArg Groups.named (List.map_congr_left ?_)
    intro entry member
    obtain ⟨name, relative⟩ := entry
    exact congrArg (Prod.mk name) (text relative (named (name, relative) member))

end Wrapped

/-! ## Matching all variants at once -/

section AllAtOnce

variable {mode : CompiledMode σ} {rules : List (Rule σ)} {rows : List (Row σ)} {s : Spot}

def Row.reportOf (r : Row σ) (s : Spot) (path : Path) : Report :=
  ⟨r.alternative.rule.name, r.alternative.variant, ⟨s, path.spot⟩, (r.slot 0).groups path⟩

theorem Separate.report?_eq (separate : Separate mode rules rows) {r : Row σ} (member : r ∈ rows)
    (s : Spot) : r.alternative.report? s =
      ((r.branch.pattern .multiLineCrlf).first? s).map (r.reportOf s) := by
  rw [Alternative.report?, separate.means r member, Option.bind_some, separate.groups_eq r member]
  rfl

/-- Dispatch on the match of a wrapper finds the slot that begins there if all slots before it are
kept, and otherwise no slot so far. -/
theorem dispatch?_wrapMatch (compiled : Compiled mode rules rows) {before after : List (Row σ)}
    {r : Row σ} (split : rows = before ++ r :: after) (path : Path) :
    CompiledMode.dispatch?
        (wrapMatch (1 + (before.map (·.branch.span)).sum) path s) mode.entries =
      if ∀ b ∈ before, b.alternative.KeepsGroups then
        some ⟨r.entry, r.alternative.variant, r.slot (1 + (before.map Row.width).sum),
          ⟨s, path.spot⟩⟩
      else
        (slotted (1 + (before.map Row.width).sum + r.width) after).findSome?
          (CompiledMode.hit? (wrapMatch (1 + (before.map (·.branch.span)).sum) path s)) := by
  obtain ⟨le, same⟩ := sum_width_le before
  have none_before : (slotted 1 before).findSome?
      (CompiledMode.hit? (wrapMatch (1 + (before.map (·.branch.span)).sum) path s)) = none := by
    refine List.findSome?_eq_none_iff.2 fun t member => ?_
    have below := (mem_slotted member).2
    rw [CompiledMode.hit?, group?_wrapMatch_of_lt _ path s (Nat.lt_of_lt_of_le below (by omega))]
    rfl
  rw [CompiledMode.dispatch?_eq, compiled.targets_eq, split, slotted_append,
    List.findSome?_append, none_before, slotted, List.findSome?_cons]
  by_cases kept : ∀ b ∈ before, b.alternative.KeepsGroups
  · rw [if_pos kept, CompiledMode.hit?, Row.slot_start, same.2 kept, group?_wrapMatch_self]
    rfl
  · have short : 1 + (before.map Row.width).sum < 1 + (before.map (·.branch.span)).sum := by
      have differ := mt same.1 kept
      omega
    rw [if_neg kept, CompiledMode.hit?, Row.slot_start, group?_wrapMatch_of_lt _ path s short]
    rfl

theorem report?_ne_of_after (before : List (Row σ)) {after : List (Row σ)} {r : Row σ} {n : Nat}
    {path wrapped : Path}
    (distinct : ((before ++ r :: after).map fun r => r.alternative.key).Nodup) :
    ((slotted n after).findSome? (CompiledMode.hit? wrapped)).map
        (fun d => (⟨d.entry.kind, d.variant, d.extent, d.slot.groups wrapped⟩ : Report)) ≠
      some (r.reportOf s path) := by
  intro same
  obtain ⟨d, found, reported⟩ := Option.map_eq_some_iff.1 same
  obtain ⟨t, member, hit⟩ := List.exists_of_findSome?_eq_some found
  obtain ⟨extent, -, rfl⟩ := Option.map_eq_some_iff.1 hit
  obtain ⟨⟨r', inAfter, entry, variant⟩, -⟩ := mem_slotted member
  simp only [Row.reportOf, Report.mk.injEq] at reported
  have keys : r'.alternative.key = r.alternative.key := by
    rw [Alternative.key, Alternative.key, ← reported.1, ← reported.2.1, entry, r'.kind_eq, variant]
  rw [List.map_append, List.map_cons, List.nodup_append, List.nodup_cons] at distinct
  exact distinct.2.1.1 (List.mem_map.2 ⟨r', inAfter, keys⟩)

theorem mem_of_passedOver {a : Alternative σ} (member : a ∈ passedOver rules s) :
    a ∈ alternatives rules :=
  (List.takeWhile_sublist _).subset member

theorem passedOver_eq {before after : List (Alternative σ)} {a : Alternative σ}
    (order : alternatives rules = before ++ a :: after)
    (unmatched : ∀ b ∈ before, b.report? s = none) (matched : a.report? s ≠ none) :
    passedOver rules s = before := by
  rw [passedOver, order, List.takeWhile_append_of_pos, List.takeWhile_cons_of_neg,
    List.append_nil]
  · simpa using matched
  · intro b member
    rw [unmatched b member]
    rfl

variable (separate : Separate mode rules rows)

include separate

theorem Separate.first?_eq_none
    (unmatched : ∀ r ∈ rows, (r.branch.pattern .multiLineCrlf).first? s = none) :
    mode.pattern.first? s = none := by
  rw [separate.pattern_eq]
  refine first?_joined_eq_none (fun empty => ?_) fun b member => ?_
  · exact separate.nonempty (List.map_eq_nil_iff.1 empty)
  · obtain ⟨r, inRows, rfl⟩ := List.mem_map.1 member
    exact unmatched r inRows

theorem Separate.firstMatch?_eq_none_iff : firstMatch? rules s = none ↔
    ∀ r ∈ rows, (r.branch.pattern .multiLineCrlf).first? s = none := by
  rw [firstMatch?, ← separate.alternatives_eq, List.findSome?_eq_none_iff, List.forall_mem_map]
  refine forall₂_congr fun r member => ?_
  rw [separate.report?_eq member, Option.map_eq_none_iff]

theorem Separate.report?_of_none
    (unmatched : ∀ r ∈ rows, (r.branch.pattern .multiLineCrlf).first? s = none) :
    mode.report? s = none ∧ firstMatch? rules s = none := by
  refine ⟨?_, separate.firstMatch?_eq_none_iff.2 unmatched⟩
  rw [CompiledMode.report?, separate.first?_eq_none unmatched]
  rfl

section First

variable {before after : List (Row σ)} {r : Row σ} {path : Path}
  (order : rows = before ++ r :: after)
  (unmatched : ∀ b ∈ before, (b.branch.pattern .multiLineCrlf).first? s = none)
  (found : (r.branch.pattern .multiLineCrlf).first? s = some path)

include order unmatched found

theorem Separate.firstMatch?_eq :
    firstMatch? rules s = some (r.reportOf s path) ∧
      passedOver rules s = before.map Row.alternative := by
  have matched : r.alternative.report? s = some (r.reportOf s path) := by
    rw [separate.report?_eq (order ▸ List.mem_append_right _ List.mem_cons_self), found]
    rfl
  have noReport : ∀ a ∈ before.map Row.alternative, a.report? s = none := by
    intro a member
    obtain ⟨b, inBefore, rfl⟩ := List.mem_map.1 member
    rw [separate.report?_eq (order ▸ List.mem_append_left _ inBefore), unmatched b inBefore]
    rfl
  have order' : alternatives rules =
      before.map Row.alternative ++ r.alternative :: after.map Row.alternative := by
    rw [← separate.alternatives_eq, order, List.map_append, List.map_cons]
  refine ⟨?_, passedOver_eq order' noReport (by rw [matched]; exact nofun)⟩
  rw [firstMatch?, order', List.findSome?_append, List.findSome?_eq_none_iff.2 noReport,
    List.findSome?_cons, matched]
  rfl

/-- The joined pattern matches as the wrapper of the first variant that matches by itself. -/
theorem Separate.first?_eq : mode.pattern.first? s =
    some (wrapMatch (1 + (before.map (·.branch.span)).sum) path s) := by
  have branchesUnmatched : ∀ b ∈ before.map Row.branch,
      (b.pattern .multiLineCrlf).first? s = none := by
    intro b member
    obtain ⟨r', inBefore, rfl⟩ := List.mem_map.1 member
    exact unmatched r' inBefore
  rw [separate.pattern_eq, order, List.map_append, List.map_cons,
    first?_joined branchesUnmatched found, List.map_map]
  rfl

/-- The mode reports the first variant that matches by itself just if the variants before it keep
their groups. -/
theorem Separate.report?_of_first : mode.report? s = some (r.reportOf s path) ↔
    ∀ b ∈ before, b.alternative.KeepsGroups := by
  obtain ⟨-, same⟩ := sum_width_le before
  rw [CompiledMode.report?, separate.first?_eq order unmatched found, Option.bind_some,
    dispatch?_wrapMatch separate.toCompiled order path]
  by_cases kept : ∀ b ∈ before, b.alternative.KeepsGroups
  · refine iff_of_true ?_ kept
    have positive : ∀ g ∈ r.pattern.groups, 0 < g.1 := by
      rw [r.groups_eq]
      exact fun g member => ((r.fragment.tree.groups_sorted 1).2 g member).1
    have groups := Slot.groups_wrapMatch path s (1 + (before.map (·.branch.span)).sum) positive
    rw [if_pos kept, Option.map_some, Row.slot, same.2 kept, groups, r.kind_eq]
    rfl
  · rw [if_neg kept]
    refine iff_of_false (report?_ne_of_after before ?_) kept
    rw [← order]
    have distinct := separate.distinct
    rw [← separate.alternatives_eq, List.map_map] at distinct
    exact distinct

end First

/-- If the last variant is the first that matches, and one before it does not keep its groups, then the
mode matches but finds no rule. -/
theorem Separate.exists_undispatched {before : List (Row σ)} {r : Row σ} {path : Path}
    (order : rows = before ++ [r])
    (unmatched : ∀ b ∈ before, (b.branch.pattern .multiLineCrlf).first? s = none)
    (found : (r.branch.pattern .multiLineCrlf).first? s = some path)
    (lost : ¬ ∀ b ∈ before, b.alternative.KeepsGroups) :
    ∃ path, mode.pattern.first? s = some path ∧
      CompiledMode.dispatch? path mode.entries = none := by
  have dispatched := dispatch?_wrapMatch (s := s) separate.toCompiled order path
  rw [if_neg lost] at dispatched
  exact ⟨_, separate.first?_eq order unmatched found, dispatched⟩

/-- A mode finds a match wherever one of its variants does, if those keep their groups that are passed
over. -/
theorem Separate.exists_dispatch (keeps : ∀ a ∈ passedOver rules s, a.KeepsGroups) {r : Row σ}
    (member : r ∈ rows) (matched : (r.branch.pattern .multiLineCrlf).first? s ≠ none) :
    ∃ path d, mode.pattern.first? s = some path ∧
      CompiledMode.dispatch? path mode.entries = some d := by
  cases first : rows.findSome? fun r => (r.branch.pattern .multiLineCrlf).first? s with
  | none => exact absurd (List.findSome?_eq_none_iff.1 first r member) matched
  | some own =>
      obtain ⟨before, r', after, order, found, unmatched⟩ := List.findSome?_eq_some_iff.1 first
      obtain ⟨-, passed⟩ := separate.firstMatch?_eq order unmatched found
      rw [passed, List.forall_mem_map] at keeps
      have dispatched := dispatch?_wrapMatch (s := s) separate.toCompiled order own
      rw [if_pos keeps] at dispatched
      exact ⟨_, _, separate.first?_eq order unmatched found, dispatched⟩

end AllAtOnce

/-- In a mode that compiles, no fragment of which turns verbose mode on, each variant means
something by itself; and the mode reports at a place what the first variant that matches there
reports by itself, or nothing if none matches, exactly if the variants before that one keep their
groups. -/
theorem compile_report?_iff {name : String} {rules : List (Rule σ)} {resolve : String → Option Nat}
    {mode : CompiledMode σ} (ok : CompiledMode.compile name rules resolve = .ok mode)
    (plain : ∀ a ∈ alternatives rules, a.turnsVerbose = false) :
    (∀ a ∈ alternatives rules, a.pattern?.isSome) ∧
      ∀ s, mode.report? s = firstMatch? rules s ↔
        firstMatch? rules s = none ∨ ∀ a ∈ passedOver rules s, a.KeepsGroups := by
  obtain ⟨rows, compiled⟩ := compile_rows ok
  have separate : Separate mode rules rows := compiled.separate fun r member => by
    refine r.not_endsInComment (plain _ ?_)
    rw [← compiled.alternatives_eq]
    exact List.mem_map_of_mem (List.mem_of_mem_dropLast member)
  refine ⟨?_, ?_⟩
  · intro a member
    rw [← compiled.alternatives_eq] at member
    obtain ⟨r, inRows, rfl⟩ := List.mem_map.1 member
    rw [separate.means r inRows]
    rfl
  · intro s
    cases first : rows.findSome? fun r => (r.branch.pattern .multiLineCrlf).first? s with
    | none =>
        obtain ⟨noReport, noFirst⟩ :=
          separate.report?_of_none (List.findSome?_eq_none_iff.1 first)
        rw [noReport, noFirst]
        exact iff_of_true rfl (Or.inl rfl)
    | some path =>
        -- The joined pattern matches as the first row that does, whatever dispatch makes of it.
        obtain ⟨before, r, after, order, found, unmatched⟩ := List.findSome?_eq_some_iff.1 first
        obtain ⟨firstReport, passed⟩ := separate.firstMatch?_eq order unmatched found
        rw [firstReport, passed, List.forall_mem_map,
          separate.report?_of_first order unmatched found]
        exact ⟨Or.inr, fun either => either.resolve_left nofun⟩

def keptGroupRules : List (Rule Unit) :=
  [(Rule.regex "word" "(a|b)c").wordBound, .regex "other" "d(e)?"]

theorem keptGroupRules_report? : ∃ mode,
    CompiledMode.compile "main" keptGroupRules (fun _ => none) = .ok mode ∧
      mode.report? (.start ['d', 'e']) = firstMatch? keptGroupRules (.start ['d', 'e']) := by
  obtain ⟨mode, ok, -⟩ := exists_of_any (p := fun _ => true)
    (x := CompiledMode.compile "main" keptGroupRules fun _ => none) (by decide)
  exact ⟨mode, ok, ((compile_report?_iff ok (by decide)).2 _).2 (Or.inr (by decide))⟩

def lostGroupRules : List (Rule Unit) := [.regex "pair" "(a)(b){0}", .regex "c" "c"]

/-- The second rule matches by itself, but its slot begins one number before its wrapper. -/
theorem lostGroupRules_report? : ∃ mode,
    CompiledMode.compile "main" lostGroupRules (fun _ => none) = .ok mode ∧
      (∀ a ∈ alternatives lostGroupRules, a.turnsVerbose = false) ∧
      mode.report? (.start ['c']) ≠ firstMatch? lostGroupRules (.start ['c']) := by
  obtain ⟨mode, ok, noReport⟩ := exists_of_any
    (p := fun mode => (mode.report? (.start ['c'])).isNone)
    (x := CompiledMode.compile "main" lostGroupRules fun _ => none) (by decide)
  have matched : (firstMatch? lostGroupRules (.start ['c'])).isSome := by decide
  refine ⟨mode, ok, by decide, fun same => ?_⟩
  rw [← same, Option.isSome_iff_ne_none] at matched
  exact matched (Option.isNone_iff_eq_none.1 noReport)

end ModalLexer
