import ModalLexer.Proofs.Mode.Choice
import ModalLexer.Proofs.Pattern.Meaningful

/-! # Patterns that pass by themselves, put together

Rules that pass one by one are joined to one pattern.  Without comments nothing in it runs together, so
that it can be read unless a name is given to two groups, and its groups are those of the variants
with the wrappers around these.  What the slots have room for is another number: it goes by the last
group that is left in each variant.  The rules compile just if the names differ and no variant has a
gap among its groups (`compile_combines`). -/
set_option autoImplicit false
namespace ModalLexer

open Reading

variable {σ : Type}

namespace Alternative

def groupNames (a : Alternative σ) : List String :=
  ((a.source.fragment?.bind lexemes?).map Tree.groupNames).getD []

def groupCount? (a : Alternative σ) : Option Nat :=
  (a.source.fragment?.bind (Pattern.read? .standard)).map (·.groups.length)

/-- Whether the slot has room for just the groups that are left.  It has room for more if a group in
a repetition of zero rounds stands before one that is left. -/
def Gapless (a : Alternative σ) : Prop := a.slotWidth? = a.groupCount?.map (· + 1)

instance (a : Alternative σ) : Decidable a.Gapless :=
  inferInstanceAs (Decidable (a.slotWidth? = a.groupCount?.map (· + 1)))

end Alternative

def groupNames (rules : List (Rule σ)) : List String :=
  (alternatives rules).flatMap Alternative.groupNames

def NestsWithin (rules : List (Rule σ)) : Prop :=
  ((lexemes? (writtenFrom (alternatives rules))).bind Tree.ofLexemes?).all
    (·.depth ≤ Tree.deepest) = true

instance (rules : List (Rule σ)) : Decidable (NestsWithin rules) :=
  inferInstanceAs (Decidable (_ = true))

namespace Row

variable (r : Row σ)

theorem groupNames_eq : r.alternative.groupNames = Tree.groupNames r.fragment.lexemes := by
  rw [Alternative.groupNames, r.source_eq, Option.bind_some, r.fragment.lexed]
  rfl

theorem groupCount?_eq : r.alternative.groupCount? = some (r.fragment.tree.groups 1).length := by
  rw [Alternative.groupCount?, r.source_eq, Option.bind_some, r.read, Option.map_some, r.groups_eq]

theorem gapless_iff : r.alternative.Gapless ↔ r.fragment.tree.Dense := by
  rw [Alternative.Gapless, r.slotWidth?_eq, r.groupCount?_eq, Option.map_some, Option.some.injEq,
    ← r.length_groups_lt.2, eq_comm]

theorem isSome_meaning?_own : (r.branch.own.meaning? .multiLineCrlf).isSome = true := by
  obtain ⟨tree, treeRead, meant⟩ := Option.bind_eq_some_iff.1 r.read
  obtain rfl := Option.some.inj (treeRead.symm.trans r.spelled.read)
  have unicode : Flags.multiLineCrlf.unicode = Flags.standard.unicode := rfl
  have means := r.fragment.tree.isSome_meaning? unicode
  rw [meant, Option.isSome_some, Tree.meaning?, Option.isSome_map] at means
  obtain ⟨⟨piece, behind⟩, found⟩ := Option.isSome_iff_exists.1 means
  rw [r.branch.exists_meaning?_own ⟨behind, found⟩]
  rfl

end Row

/-! ## The joined pattern -/

theorem Branch.groupNames_lexemes (b : Branch) :
    Tree.groupNames b.lexemes = Tree.groupNames b.fragment.lexemes := by
  obtain ⟨wordBound, fragment⟩ := b
  cases wordBound <;>
    simp [lexemes, openingLexemes, closingLexemes, Tree.groupNames, List.filterMap_append]

theorem groupNames_joinedLexemes (bs : List Branch) : Tree.groupNames (joinedLexemes bs) =
    bs.flatMap fun b => Tree.groupNames b.fragment.lexemes := by
  induction bs with
  | nil => rfl
  | cons b bs ih =>
      cases bs with
      | nil =>
          rw [joinedLexemes, b.groupNames_lexemes, List.flatMap_cons, List.flatMap_nil,
            List.append_nil]
      | cons c bs =>
          have names : Tree.groupNames (b.lexemes ++ .bar :: joinedLexemes (c :: bs)) =
              Tree.groupNames b.lexemes ++ Tree.groupNames (joinedLexemes (c :: bs)) := by
            rw [Tree.groupNames, List.filterMap_append]
            rfl
          have unfolded : joinedLexemes (b :: c :: bs) =
              b.lexemes ++ .bar :: joinedLexemes (c :: bs) := rfl
          rw [unfolded, names, b.groupNames_lexemes, ih]
          rfl

theorem exists_meaning_joinedTree (rows : List (Row σ)) : ∃ pattern,
    (joinedTree (rows.map Row.branch)).meaning? .multiLineCrlf = some pattern ∧
      pattern.groups.length = (rows.map fun r => (r.fragment.tree.groups 1).length + 1).sum := by
  have each : ∀ b ∈ rows.map Row.branch, (b.own.meaning? .multiLineCrlf).isSome = true :=
    List.forall_mem_map.2 fun r _ => r.isSome_meaning?_own
  obtain ⟨pattern, meant⟩ := Option.isSome_iff_exists.1 (isSome_meaning?_joinedTree each)
  refine ⟨pattern, meant, ?_⟩
  rw [Tree.groups_meaning? meant, Tree.length_groups_joinedTree, List.map_map]
  rfl

/-- Rules that were laid out one by one, with a row for each variant. -/
structure LaidOut (rules : List (Rule σ)) (laid : Layout (List (Entry σ))) (rows : List (Row σ)) :
    Prop where
  nonempty : rows ≠ []
  alternatives_eq : rows.map Row.alternative = alternatives rules
  text_eq : joinBars laid.alternatives = joined (rows.map Row.branch)
  nextSlot_eq : laid.nextSlot = 1 + (rows.map Row.width).sum
  clean : ∀ r ∈ rows, ¬ EndsInComment r.branch.fragment.text
  shallow : (joinedTree (rows.map Row.branch)).depth ≤ Tree.deepest

theorem CompiledMode.exists_laidOut {name : String} {rules : List (Rule σ)}
    {resolve : String → Option Nat} {laid : Layout (List (Entry σ))}
    (laidOk : layRules name resolve [] 1 rules = .ok laid) (some_rule : rules ≠ [])
    (plain : ∀ a ∈ alternatives rules, a.turnsVerbose = false) (nests : NestsWithin rules) :
    ∃ rows, LaidOut rules laid rows := by
  obtain ⟨rows, some_row, variants, -, texts, next⟩ := layRules_rows laidOk
  have clean : ∀ r ∈ rows, ¬ EndsInComment r.branch.fragment.text := by
    intro r member
    apply r.not_endsInComment
    apply plain
    rw [← variants]
    exact List.mem_map_of_mem member
  have text : joinBars laid.alternatives = joined (rows.map Row.branch) := by
    rw [texts, joined, List.map_map]
    rfl
  have branches : rows.map Row.branch ≠ [] := by
    simpa using some_row some_rule
  refine ⟨rows, some_row some_rule, variants, text, next, clean, ?_⟩
  rw [NestsWithin, ← (layRules_result laidOk).1, text,
    joined_lexed branches (List.forall_mem_map.2 clean), Option.bind_some,
    joined_built branches] at nests
  simpa using nests

/-- What joining the alternatives of rules can come to, and when. -/
inductive Combines (name : String) (rules : List (Rule σ)) :
    Except ConfigError (CompiledMode σ) → Prop
  | build (twice : ¬ (groupNames rules).Nodup) : Combines name rules (.error (.build name))
  | mismatch (distinct : (groupNames rules).Nodup)
      (gaps : ¬ ∀ a ∈ alternatives rules, a.Gapless) {found : Nat}
      (short : found < expectedSlots rules) :
      Combines name rules (.error (.slotMismatch name (expectedSlots rules) found))
  | compiled (distinct : (groupNames rules).Nodup)
      (gapless : ∀ a ∈ alternatives rules, a.Gapless) (mode : CompiledMode σ) :
      Combines name rules (.ok mode)

namespace LaidOut

variable {rules : List (Rule σ)} {laid : Layout (List (Entry σ))} {rows : List (Row σ)}
  (laidOut : LaidOut rules laid rows)

include laidOut

theorem groupNames_eq : groupNames rules =
    Tree.groupNames (joinedLexemes (rows.map Row.branch)) := by
  rw [groupNames_joinedLexemes, groupNames, ← laidOut.alternatives_eq, List.flatMap_map,
    List.flatMap_map]
  exact List.flatMap_congr fun r _ => r.groupNames_eq

theorem gapless_iff : (∀ a ∈ alternatives rules, a.Gapless) ↔
    ∀ r ∈ rows, r.fragment.tree.Dense := by
  rw [← laidOut.alternatives_eq, List.forall_mem_map]
  exact forall₂_congr fun r _ => r.gapless_iff

theorem nextSlot_eq_expectedSlots : laid.nextSlot = expectedSlots rules := by
  rw [laidOut.nextSlot_eq, expectedSlots, ← laidOut.alternatives_eq,
    Row.filterMap_slotWidth?_rows]

/-- The joined pattern is read as the choice of its branches, unless a name is given twice. -/
theorem read?_eq : Tree.read? (joinBars laid.alternatives) =
    if (groupNames rules).Nodup then some (joinedTree (rows.map Row.branch)) else none := by
  have branches : rows.map Row.branch ≠ [] := by
    simpa using laidOut.nonempty
  have lexed := joined_lexed branches (List.forall_mem_map.2 laidOut.clean)
  rw [laidOut.text_eq, laidOut.groupNames_eq, Tree.read?, lexed]
  simp only [bind, Option.bind_some, joined_built branches, laidOut.shallow, if_true]

theorem combines (name : String) : Combines name rules (CompiledMode.join name laid) := by
  obtain ⟨pattern, meant, count⟩ := exists_meaning_joinedTree rows
  obtain ⟨le, same⟩ := sum_length_groups_le rows
  have next := laidOut.nextSlot_eq
  by_cases distinct : (groupNames rules).Nodup
  · have read : Pattern.read? .multiLineCrlf (joinBars laid.alternatives) = some pattern := by
      rw [Pattern.read?, laidOut.read?_eq, if_pos distinct]
      exact meant
    simp only [CompiledMode.join, read]
    by_cases dense : ∀ r ∈ rows, r.fragment.tree.Dense
    · have fits : pattern.groups.length + 1 = laid.nextSlot := by
        rw [count, next, same.2 dense, Nat.add_comm]
      rw [if_pos fits]
      exact .compiled distinct (laidOut.gapless_iff.2 dense) _
    · have short : pattern.groups.length + 1 < laid.nextSlot := by
        have differ := mt same.1 dense
        omega
      rw [if_neg (Nat.ne_of_lt short), laidOut.nextSlot_eq_expectedSlots]
      rw [laidOut.nextSlot_eq_expectedSlots] at short
      exact .mismatch distinct (mt laidOut.gapless_iff.1 dense) short
  · have unread : Pattern.read? .multiLineCrlf (joinBars laid.alternatives) = none := by
      rw [Pattern.read?, laidOut.read?_eq, if_neg distinct]
      rfl
    simp only [CompiledMode.join, unread]
    exact .build distinct

end LaidOut

/-- Let some rules pass one by one, let none of their fragments turn verbose mode on, and let the
joined pattern be not nested too deep.  Then the mode compiles just if the names given to groups differ
and no variant has a gap among its groups.  If a name is given twice, the joined pattern cannot be
built; if names differ but there is a gap, it has fewer groups than the slots have room for.  A mode
that compiles has as many groups as its slots have room for. -/
theorem compile_combines {name : String} {rules : List (Rule σ)} {resolve : String → Option Nat}
    (some_rule : rules ≠ []) (different : (rules.map Rule.name).Nodup)
    (passed : ∀ rule ∈ rules, rule.PassesWith resolve)
    (plain : ∀ a ∈ alternatives rules, a.turnsVerbose = false) (nests : NestsWithin rules) :
    ((∃ mode, CompiledMode.compile name rules resolve = .ok mode) ↔
      (groupNames rules).Nodup ∧ ∀ a ∈ alternatives rules, a.Gapless) ∧
    (CompiledMode.compile name rules resolve = .error (.build name) ↔
      ¬ (groupNames rules).Nodup) ∧
    ((∃ found < expectedSlots rules, CompiledMode.compile name rules resolve =
        .error (.slotMismatch name (expectedSlots rules) found)) ↔
      (groupNames rules).Nodup ∧ ¬ ∀ a ∈ alternatives rules, a.Gapless) ∧
    ∀ mode, CompiledMode.compile name rules resolve = .ok mode →
      mode.pattern.groups.length + 1 =
        1 + ((alternatives rules).filterMap (·.slotWidth?)).sum := by
  have count (mode : CompiledMode σ) (ok : CompiledMode.compile name rules resolve = .ok mode) :
      mode.pattern.groups.length + 1 =
        1 + ((alternatives rules).filterMap (·.slotWidth?)).sum :=
    CompiledMode.length_groups_of_compile ok
  obtain ⟨laid, laidOk⟩ : ∃ laid, CompiledMode.layRules name resolve [] 1 rules = .ok laid :=
    CompiledMode.exists_layRules_iff_passesWith.2
      ⟨⟨different, fun _ _ => List.not_mem_nil⟩, passed⟩
  obtain ⟨rows, laidOut⟩ := CompiledMode.exists_laidOut laidOk some_rule plain nests
  have compiles : CompiledMode.compile name rules resolve = CompiledMode.join name laid := by
    rw [CompiledMode.compile, if_neg (by simpa using some_rule), laidOk]
    rfl
  have combines := laidOut.combines name
  rw [← compiles] at combines
  -- Each of the three results excludes the other two, and its condition theirs.
  generalize CompiledMode.compile name rules resolve = result at combines count ⊢
  cases combines with
  | build twice =>
      refine ⟨iff_of_false (by simp) ?_, iff_of_true rfl twice, iff_of_false (by simp) ?_, count⟩
      all_goals exact fun both => twice both.1
  | mismatch distinct gaps short =>
      refine ⟨iff_of_false (by simp) ?_, iff_of_false (by simp) ?_,
        iff_of_true ?_ ⟨distinct, gaps⟩, count⟩
      · exact fun both => gaps both.2
      · exact fun twice => twice distinct
      · exact ⟨_, short, rfl⟩
  | compiled distinct gapless mode =>
      refine ⟨iff_of_true ⟨mode, rfl⟩ ⟨distinct, gapless⟩, iff_of_false (by simp) ?_,
        iff_of_false (by simp) ?_, count⟩
      · exact fun twice => twice distinct
      · exact fun both => both.2 gapless

def datedRules : List (Rule Unit) :=
  [.regex "date" "(?<year>[0-9]+)-(?<month>[0-9]+)", (Rule.regex "word" "[a-z](b)?").wordBound]

/-- The rules compile, with a wrapper and two groups for dates and a wrapper and one for words. -/
theorem datedRules_combine : ∃ mode,
    CompiledMode.compile "main" datedRules (fun _ => none) = .ok mode ∧
      groupNames datedRules = ["year", "month"] ∧ mode.pattern.groups.length + 1 = 6 := by
  have passed : ∀ rule ∈ datedRules, rule.PassesWith fun _ => none := by
    have valid : ∀ rule ∈ datedRules, ∀ source ∈ rule.variants,
        (source.fragment?.bind (Pattern.read? .standard)).isSome = true := by decide
    intro rule member
    refine ⟨?_, fun source inside => Source.valid_of_isSome (valid rule member source inside), ?_⟩
    · revert rule
      decide
    · refine ⟨.stay, ?_⟩
      rcases List.mem_pair.1 member with rfl | rfl <;> rfl
  obtain ⟨compiles, -, -, count⟩ := @compile_combines Unit "main" datedRules (fun _ => none)
    (by decide) (by decide) passed (by decide) (by decide)
  obtain ⟨mode, ok⟩ := compiles.2 (by decide)
  have width : 1 + ((alternatives datedRules).filterMap (·.slotWidth?)).sum = 6 := by decide
  exact ⟨mode, ok, by decide, (count mode ok).trans width⟩

def gappedRules : List (Rule Unit) := [.regex "pair" "(a){0}(b)"]

/-- Everything is as it should be but for the gap, and the rule does not compile. -/
theorem gappedRules_slotMismatch : gappedRules ≠ [] ∧ (gappedRules.map Rule.name).Nodup ∧
    (∀ rule ∈ gappedRules, rule.PassesWith fun _ => none) ∧
    (∀ a ∈ alternatives gappedRules, a.turnsVerbose = false) ∧ NestsWithin gappedRules ∧
    (groupNames gappedRules).Nodup ∧
    CompiledMode.compile "main" gappedRules (fun _ => none) =
      .error (.slotMismatch "main" 4 3) := by
  have passed : ∀ rule ∈ gappedRules, rule.PassesWith fun _ => none := by
    refine List.forall_mem_singleton.2 ⟨by decide, ?_, .stay, rfl⟩
    exact List.forall_mem_singleton.2 (Source.valid_of_isSome (by decide))
  exact ⟨by decide, by decide, passed, by decide, by decide, by decide, rfl⟩

/-- One name in two variants. -/
example : CompiledMode.compile "main"
    [(Rule.regex "one" "(?<n>a)" : Rule Unit), .regex "two" "(?<n>b)"] (fun _ => none) =
      .error (.build "main") := rfl

end ModalLexer
