import ModalLexer.Proofs.Mode.Choice
import ModalLexer.Proofs.Mode.Entries
import ModalLexer.Proofs.Mode.FirstMatch
import ModalLexer.Proofs.Scan.Turn
import ModalLexer.Proofs.Tree.Scoped

/-! # Variants and one choice of them

A rule tries its variants in order, and so does the rule whose one variant is the choice of them.  In
modes that differ in that, the same rule matches the same stretch (`extent?_merge`), and this is what
either mode finds if all groups are kept (`Separate.finds_cases`). -/
set_option autoImplicit false
namespace ModalLexer

open Reading

variable {σ : Type}

/-- A rule with the choice of its variants for its only one, if it is chosen. -/
def Rule.merge (chosen : String → Bool) (rule : Rule σ) : Rule σ :=
  if chosen rule.name then rule.only (.oneOf rule.variants) else rule

def Mode.merge (chosen : String → Bool) (m : Mode σ) : Mode σ :=
  { m with rules := m.rules.map (·.merge chosen) }

section Merge

variable (chosen : String → Bool) (rule : Rule σ)

@[simp] theorem Rule.name_merge : (rule.merge chosen).name = rule.name := by
  rw [merge]
  split <;> rfl

@[simp] theorem Rule.options_merge : (rule.merge chosen).options = rule.options := by
  rw [merge]
  split <;> rfl

@[simp] theorem Mode.name_merge (m : Mode σ) : (m.merge chosen).name = m.name := rfl

end Merge

/-! ## Rules that match -/

def Rule.extent? (rule : Rule σ) (s : Spot) : Option Extent :=
  (rule.alternatives 0 rule.variants).findSome? fun a => (a.report? s).map (·.extent)

def firstRule? (rules : List (Rule σ)) (s : Spot) : Option (Rule σ × Extent) :=
  rules.findSome? fun rule => (rule.extent? s).map (Prod.mk rule)

theorem Rule.findSome?_alternatives (rule : Rule σ) (s : Spot) (n : Nat) (sources : List Source) :
    ((rule.alternatives n sources).findSome? fun a =>
        (a.report? s).map fun report => (a.rule, report.extent)) =
      ((rule.alternatives n sources).findSome? fun a => (a.report? s).map (·.extent)).map
        (Prod.mk rule) := by
  induction sources generalizing n with
  | nil => rfl
  | cons source sources ih =>
      rw [alternatives, List.findSome?_cons, List.findSome?_cons, ih]
      cases (Alternative.mk rule n source).report? s <;> rfl

theorem firstRule?_eq (rules : List (Rule σ)) (s : Spot) : firstRule? rules s =
    (alternatives rules).findSome? fun a =>
      (a.report? s).map fun report => (a.rule, report.extent) := by
  rw [firstRule?, alternatives, findSome?_flatMap]
  exact findSome?_congr fun rule _ => (rule.findSome?_alternatives s 0 rule.variants).symm

/-- A mode all of whose groups are kept finds the first rule that matches. -/
theorem Separate.finds_cases {name : String} {rules : List (Rule σ)}
    {resolve : String → Option Nat} {mode : CompiledMode σ} {rows : List (Row σ)}
    (separate : Separate mode rules rows)
    (ok : CompiledMode.compile name rules resolve = .ok mode)
    (kept : ∀ a ∈ alternatives rules, a.KeepsGroups) (s : Spot) :
    (firstRule? rules s = none ∧ ∀ path d, ¬ mode.Finds s path d) ∨
      ∃ path d rule, mode.Finds s path d ∧ firstRule? rules s = some (rule, d.extent) ∧
        d.entry.Follows resolve rule := by
  rw [firstRule?_eq, ← separate.alternatives_eq, List.findSome?_map]
  have reported (r : Row σ) (member : r ∈ rows) :
      ((r.alternative.report? s).map fun report => (r.alternative.rule, report.extent)) =
        ((r.branch.pattern .multiLineCrlf).first? s).map fun path =>
          (r.alternative.rule, ⟨s, path.spot⟩) := by
    rw [separate.report?_eq member, Option.map_map]
    rfl
  cases first : rows.findSome? fun r => (r.branch.pattern .multiLineCrlf).first? s with
  | none =>
      have unmatched := List.findSome?_eq_none_iff.1 first
      refine .inl ⟨List.findSome?_eq_none_iff.2 fun r member => ?_, fun path d finds => ?_⟩
      · rw [Function.comp_apply, reported r member, unmatched r member]
        rfl
      · have missing := finds.first
        rw [separate.first?_eq_none unmatched] at missing
        cases missing
  | some path =>
      obtain ⟨before, r, after, order, found, unmatched⟩ := List.findSome?_eq_some_iff.1 first
      have keeps : ∀ b ∈ before, b.alternative.KeepsGroups := fun b member => by
        apply kept
        rw [← separate.alternatives_eq, order]
        exact List.mem_map_of_mem (List.mem_append_left _ member)
      -- All groups are kept, so dispatch stops at the slot of the row that matched.
      have dispatched := dispatch?_wrapMatch (s := s) separate.toCompiled order path
      rw [if_pos keeps] at dispatched
      have member : r ∈ rows := order ▸ List.mem_append_right _ List.mem_cons_self
      refine .inr ⟨_, _, r.alternative.rule,
        ⟨separate.first?_eq order unmatched found, dispatched⟩, ?_,
        separate.toCompiled.follows ok member⟩
      refine List.findSome?_eq_some_iff.2 ⟨before, r, after, order, ?_, fun b inFront => ?_⟩
      · rw [Function.comp_apply, reported r member, found]
        rfl
      · have inRows : b ∈ rows := order ▸ List.mem_append_left _ inFront
        rw [Function.comp_apply, reported b inRows, unmatched b inFront]
        rfl

/-! ## Sources whose flags are scoped -/

namespace Source

/-- Whether a source sets flags for groups alone, and never the verbose flag. -/
def scopesFlags (source : Source) : Bool :=
  (source.fragment?.bind lexemes?).all (·.all Lexeme.scopesFlags)

variable {source : Source} {f : Fragment}

theorem Spelled.scopesFlags_iff (spelled : source.Spelled f) :
    source.scopesFlags = true ↔ ∀ l ∈ f.lexemes, l.scopesFlags = true := by
  rw [scopesFlags, spelled.written, Option.bind_some, f.lexed, Option.all_some, List.all_eq_true]

theorem Valid.leavesFlags (valid : source.Valid) (scopes : source.scopesFlags = true) :
    source.LeavesFlags := by
  obtain ⟨f, spelled⟩ := valid.exists_spelled
  have lexemes := spelled.scopesFlags_iff.1 scopes
  have quiet := Fragment.quiet_of_scopesFlags lexemes
  exact ⟨f.text, spelled.written, quiet.clean, f.lexemes, f.lexed, quiet.plain, f.tree, f.built,
    Fragment.keepsFlags_of_scopesFlags lexemes _⟩

/-- What is needed of the variants of a rule, so that they can be made one. -/
structure Plain (source : Source) : Prop where
  valid : source.Valid
  scopes : source.scopesFlags = true
  keeps : ∀ f, source.Spelled f → f.tree.KeepsGroups

end Source

/-! ## Groups -/

theorem foldl_max_eq_iff {ns : List Nat} {n bound : Nat} (start : n ≤ bound)
    (each : ∀ m ∈ ns, m ≤ bound) : ns.foldl max n = bound ↔ n = bound ∨ bound ∈ ns := by
  induction ns generalizing n with
  | nil => simp
  | cons m ns ih =>
      rw [List.forall_mem_cons] at each
      rw [List.foldl_cons, ih (Nat.max_le.2 ⟨start, each.1⟩) each.2, List.mem_cons, ← or_assoc]
      refine or_congr_left ?_
      have first := each.1
      omega

theorem Row.keepsGroups_iff_tree (r : Row σ) :
    r.alternative.KeepsGroups ↔ r.fragment.tree.KeepsGroups := by
  have counted := Tree.captures_ofLexemes? r.fragment.built
  have width : r.width = (r.pattern.groups.map (·.1)).foldl max 0 + 1 := rfl
  have span : r.branch.span = ModalLexer.captures r.fragment.lexemes + 1 := rfl
  have within : ∀ n ∈ (r.fragment.tree.groups 1).map (·.1), n ≤ r.fragment.tree.captures := by
    rw [List.forall_mem_map]
    intro g member
    have := ((r.fragment.tree.groups_sorted 1).2 g member).2
    omega
  rw [r.keepsGroups_iff, width, span, r.groups_eq, ← counted, Nat.add_right_cancel_iff,
    foldl_max_eq_iff (Nat.zero_le _) within, Tree.KeepsGroups, Nat.pos_iff_ne_zero]
  exact ⟨fun either some_group => either.resolve_left (Ne.symm some_group),
    fun kept => or_iff_not_imp_left.2 fun some_group => kept (Ne.symm some_group)⟩

/-! ## Rows of rules that were merged -/

theorem Row.plain_of_oneOf {r : Row σ} {sources : List Source}
    (choice : r.alternative.source = .oneOf sources) (plain : ∀ source ∈ sources, source.Plain) :
    r.alternative.source.scopesFlags = true ∧ r.alternative.KeepsGroups := by
  obtain ⟨fs, spelled⟩ := Source.exists_spelled fun source member => (plain source member).valid
  have each : ∀ f ∈ fs, (∀ l ∈ f.lexemes, l.scopesFlags = true) ∧ f.tree.KeepsGroups := by
    intro f member
    obtain ⟨source, inSources, own⟩ := exists_of_forall₂_right spelled member
    have good := plain source inSources
    exact ⟨own.scopesFlags_iff.1 good.scopes, good.keeps f own⟩
  obtain ⟨some_fragment, joints⟩ := fragment_of_oneOf (b := r.branch) r.spelled choice spelled
  obtain ⟨joint, text, tree, -, -, lexemes⟩ := Fragment.exists_anyOf some_fragment
    fun f member => Fragment.quiet_of_scopesFlags (each f (List.mem_of_mem_dropLast member)).1
  have same : r.fragment = joint := joints joint text
  constructor
  · refine r.spelled.scopesFlags_iff.2 fun l member => ?_
    rcases lexemes l (same ▸ member) with rfl | ⟨f, inFs, inside⟩
    · rfl
    · exact (each f inFs).1 l inside
  · rw [r.keepsGroups_iff_tree, same, tree]
    refine .anyOf ?_
    rw [List.forall_mem_map]
    exact fun f member => (each f member).2

theorem Rule.exists_alternative (rule : Rule σ) {sources : List Source} {source : Source}
    (member : source ∈ sources) (n : Nat) :
    ∃ a ∈ rule.alternatives n sources, a.source = source := by
  induction sources generalizing n with
  | nil => cases member
  | cons first sources ih =>
      rcases List.mem_cons.1 member with rfl | later
      · exact ⟨_, List.mem_cons_self, rfl⟩
      · obtain ⟨a, inside, same⟩ := ih later (n + 1)
        exact ⟨a, List.mem_cons_of_mem _ inside, same⟩

/-- A variant of a merged rule is one that was there before, or the choice of those of a chosen
rule. -/
theorem alternatives_merge_cases {chosen : String → Bool} {rules : List (Rule σ)}
    {a : Alternative σ} (member : a ∈ alternatives (rules.map (·.merge chosen))) :
    a ∈ alternatives rules ∨ ∃ rule ∈ rules, a.source = .oneOf rule.variants := by
  obtain ⟨rule', inRules', ofRule⟩ := List.mem_flatMap.1 member
  obtain ⟨rule, inRules, rfl⟩ := List.mem_map.1 inRules'
  rw [Rule.merge] at ofRule
  split at ofRule
  · exact .inr ⟨rule, inRules, by rw [List.mem_singleton.1 ofRule]⟩
  · exact .inl (List.mem_flatMap.2 ⟨rule, inRules, ofRule⟩)

theorem Alternative.turnsVerbose_of_scopesFlags {a : Alternative σ}
    (scopes : a.source.scopesFlags = true) : a.turnsVerbose = false := by
  rw [Source.scopesFlags] at scopes
  rw [turnsVerbose]
  generalize a.source.fragment?.bind lexemes? = read at scopes ⊢
  cases read with
  | none => rfl
  | some ls =>
      rw [Option.all_some, List.all_eq_true] at scopes
      rw [Option.any_some, List.any_eq_false]
      intro l member
      exact Bool.eq_false_iff.1 (Lexeme.turnsVerbose_of_scopesFlags (scopes l member))

theorem Compiled.separate_of_scopesFlags {mode : CompiledMode σ} {rules : List (Rule σ)}
    {rows : List (Row σ)} (compiled : Compiled mode rules rows)
    (scopes : ∀ a ∈ alternatives rules, a.source.scopesFlags = true) : Separate mode rules rows :=
  compiled.separate_of_plain fun a member => a.turnsVerbose_of_scopesFlags (scopes a member)

/-! ## What merged rules match -/

/-- What the branches of the variants begin with in common, one by one or all together, can be matched
at a place in one way at most. -/
def Rule.SharesOneWay (rule : Rule σ) (s : Spot) : Prop :=
  (Source.oneOf rule.variants).SharesOneWay s ∧ ∀ source ∈ rule.variants, source.SharesOneWay s

instance (rule : Rule σ) (s : Spot) : Decidable (rule.SharesOneWay s) :=
  inferInstanceAs (Decidable (_ ∧ ∀ source ∈ rule.variants, source.SharesOneWay s))

/-- The variants of a rule match as its sources do in another rule with the same word bound. -/
theorem Rule.findSome?_extent (rule : Rule σ) {a : Alternative σ}
    (bound : a.rule.options.wordBound = rule.options.wordBound) (s : Spot) (n : Nat)
    (sources : List Source) :
    ((rule.alternatives n sources).findSome? fun b => (b.report? s).map (·.extent)) =
      sources.findSome? fun source => ((a.withSource source).report? s).map (·.extent) := by
  induction sources generalizing n with
  | nil => rfl
  | cons source sources ih =>
      have same : (a.withSource source).source = (Alternative.mk rule n source).source := rfl
      have first := Alternative.extent_report?_congr ⟨rule, n, source⟩ same bound s
      rw [alternatives, List.findSome?_cons, List.findSome?_cons, first, ih]

section Merging

variable {mode mode' : CompiledMode σ} {rules : List (Rule σ)} {rows rows' : List (Row σ)}
  {chosen : String → Bool} {s : Spot} (compiled : Compiled mode rules rows)
  (compiled' : Compiled mode' (rules.map (·.merge chosen)) rows')
  (plain : ∀ a ∈ alternatives rules, a.source.scopesFlags = true ∧ a.KeepsGroups)

include compiled plain

theorem Compiled.plain_variants {rule : Rule σ} (inRules : rule ∈ rules) :
    ∀ source ∈ rule.variants, source.Plain := by
  intro source member
  obtain ⟨a, ofRule, rfl⟩ := rule.exists_alternative member 0
  have inside : a ∈ alternatives rules := List.mem_flatMap.2 ⟨rule, inRules, ofRule⟩
  obtain ⟨scopes, keeps⟩ := plain a inside
  rw [← compiled.alternatives_eq] at inside
  obtain ⟨r, -, rfl⟩ := List.mem_map.1 inside
  refine ⟨⟨_, _, r.source_eq, r.read⟩, scopes, fun f spelled => ?_⟩
  have same : f = r.fragment :=
    f.ext_of_text (Option.some.inj (spelled.written.symm.trans r.source_eq))
  rw [same, ← r.keepsGroups_iff_tree]
  exact keeps

include compiled'

theorem Compiled.plain_merge : ∀ a ∈ alternatives (rules.map (·.merge chosen)),
    a.source.scopesFlags = true ∧ a.KeepsGroups := by
  intro a member
  rcases alternatives_merge_cases member with before | ⟨rule, inRules, choice⟩
  · exact plain a before
  · rw [← compiled'.alternatives_eq] at member
    obtain ⟨r, -, rfl⟩ := List.mem_map.1 member
    exact r.plain_of_oneOf choice (compiled.plain_variants plain inRules)

theorem Compiled.extent?_merge {rule : Rule σ} (inRules : rule ∈ rules)
    (oneWay : chosen rule.name = true → rule.SharesOneWay s) :
    (rule.merge chosen).extent? s = rule.extent? s := by
  by_cases isChosen : chosen rule.name = true
  · have merged : rule.merge chosen = rule.only (.oneOf rule.variants) := if_pos isChosen
    let a : Alternative σ := ⟨rule.only (.oneOf rule.variants), 0, .oneOf rule.variants⟩
    have inside : a ∈ alternatives (rules.map (·.merge chosen)) := by
      refine List.mem_flatMap.2 ⟨_, List.mem_map_of_mem inRules, ?_⟩
      rw [merged]
      exact List.mem_cons_self
    rw [← compiled'.alternatives_eq] at inside
    obtain ⟨r, member, same⟩ := List.mem_map.1 inside
    have variants := compiled.plain_variants plain inRules
    have separate := compiled'.separate_of_scopesFlags fun a inRules' =>
      (compiled.plain_merge compiled' plain a inRules').1
    have steady : ∀ source ∈ rule.variants.dropLast, source.LeavesFlags := fun source early =>
      have good := variants source (List.mem_of_mem_dropLast early)
      good.valid.leavesFlags good.scopes
    have choice : r.alternative.source = .oneOf rule.variants := by rw [same]
    have tried := extent_report?_oneOf r.spelled rfl (separate.clean r member)
      (separate.means r member) choice (fun source inRule => (variants source inRule).valid) steady
      (choice ▸ (oneWay isChosen).1) (oneWay isChosen).2
    rw [same] at tried
    have whole : (rule.only (.oneOf rule.variants)).extent? s = (a.report? s).map (·.extent) :=
      List.findSome?_singleton
    rw [merged, whole, tried]
    exact (rule.findSome?_extent (a := a) rfl s 0 rule.variants).symm
  · rw [Rule.merge, if_neg isChosen]

/-- The first rule that matches is the same, and so is the stretch that it matches. -/
theorem Compiled.firstRule?_merge
    (oneWay : ∀ rule ∈ rules, chosen rule.name = true → rule.SharesOneWay s) :
    firstRule? (rules.map (·.merge chosen)) s =
      (firstRule? rules s).map fun found => (found.1.merge chosen, found.2) := by
  have each : ∀ rule ∈ rules, (rule.merge chosen).extent? s = rule.extent? s := fun rule inRules =>
    compiled.extent?_merge compiled' plain inRules (oneWay rule inRules)
  clear compiled compiled' plain oneWay
  induction rules with
  | nil => rfl
  | cons rule rules ih =>
      rw [List.forall_mem_cons] at each
      have first := ih each.2
      rw [firstRule?] at first ⊢
      rw [List.map_cons, List.findSome?_cons, first, firstRule?, firstRule?, List.findSome?_cons,
        each.1]
      cases rule.extent? s <;> rfl

end Merging

end ModalLexer
