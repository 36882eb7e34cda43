import ModalLexer.Proofs.Pattern.Joined

/-! # What compiling lays out

A mode that compiles has one row for each variant of each rule, in order (`compile_rows`): the
fragment that was read, and the entry of the rule.  The slots follow from the rows, each beginning
where the one before ends, and dispatch looks through them in order (`dispatch?_eq`). -/
set_option autoImplicit false
namespace ModalLexer

theorem bind_eq_ok {ε α β : Type} {x : Except ε α} {f : α → Except ε β} {b : β}
    (bound : x.bind f = .ok b) : ∃ a, x = .ok a ∧ f a = .ok b := by
  cases x with
  | error e => cases bound
  | ok a => exact ⟨a, rfl, bound⟩

theorem exists_of_any {ε α : Type} {x : Except ε α} {p : α → Bool}
    (found : x.toOption.any p = true) : ∃ a, x = .ok a ∧ p a = true := by
  cases x with
  | error e => cases found
  | ok a => exact ⟨a, rfl, found⟩

structure Alternative (σ : Type) where
  rule : Rule σ
  variant : Nat
  source : Source

variable {σ : Type}

def Rule.alternatives (rule : Rule σ) (n : Nat) : List Source → List (Alternative σ)
  | [] => []
  | source :: rest => ⟨rule, n, source⟩ :: rule.alternatives (n + 1) rest

/-- The variants of all rules, in the order of their declaration. -/
def alternatives (rules : List (Rule σ)) : List (Alternative σ) :=
  rules.flatMap fun rule => rule.alternatives 0 rule.variants

/-- What tells an alternative from the others of a mode. -/
def Alternative.key (a : Alternative σ) : String × Nat := (a.rule.name, a.variant)

/-- What compiling a variant finds: its fragment, and the entry of its rule. -/
structure Row (σ : Type) where
  alternative : Alternative σ
  fragment : Fragment
  pattern : Pattern
  entry : Entry σ
  source_eq : alternative.source.fragment? = some fragment.text
  read : Pattern.read? .standard fragment.text = some pattern
  groups_eq : pattern.groups = fragment.tree.groups 1
  kind_eq : entry.kind = alternative.rule.name

namespace Row

def branch (r : Row σ) : Branch := ⟨r.alternative.rule.options.wordBound, r.fragment⟩

def slot (r : Row σ) (start : Nat) : Slot := Slot.ofGroups start r.pattern.groups

def width (r : Row σ) : Nat := (r.slot 0).width

@[simp] theorem slot_start (r : Row σ) (start : Nat) : (r.slot start).start = start := rfl

@[simp] theorem slot_width (r : Row σ) (start : Nat) : (r.slot start).width = r.width := rfl

end Row

/-- A rule of a mode, a number of a variant and the slot of that variant. -/
abbrev Target (σ : Type) := Entry σ × Nat × Slot

/-- The slots of rows, each behind the one before. -/
def slotted (n : Nat) : List (Row σ) → List (Target σ)
  | [] => []
  | r :: rest => (r.entry, r.alternative.variant, r.slot n) :: slotted (n + r.width) rest

theorem slotted_append (n : Nat) (before after : List (Row σ)) : slotted n (before ++ after) =
    slotted n before ++ slotted (n + (before.map Row.width).sum) after := by
  induction before generalizing n with
  | nil => rfl
  | cons r before ih =>
      rw [List.cons_append, slotted, ih, slotted, List.cons_append, List.map_cons, List.sum_cons,
        Nat.add_assoc]

theorem length_slotted (n : Nat) (rows : List (Row σ)) : (slotted n rows).length = rows.length := by
  induction rows generalizing n with
  | nil => rfl
  | cons r rows ih => rw [slotted, List.length_cons, ih, List.length_cons]

def Entry.targets (e : Entry σ) (n : Nat) : List Slot → List (Target σ)
  | [] => []
  | slot :: rest => (e, n, slot) :: e.targets (n + 1) rest

def targets (entries : List (Entry σ)) : List (Target σ) :=
  entries.flatMap fun e => e.targets 0 e.slots

namespace CompiledMode

/-- The target whose variant took part in a match. -/
def hit? (p : Path) (t : Target σ) : Option (Dispatch σ) :=
  (p.group? t.2.2.start).map fun extent => ⟨t.1, t.2.1, t.2.2, extent⟩

theorem dispatchSlot?_eq (p : Path) (e : Entry σ) (n : Nat) (slots : List Slot) :
    (dispatchSlot? p n slots).map (fun (variant, slot, extent) => ⟨e, variant, slot, extent⟩) =
      (e.targets n slots).findSome? (hit? p) := by
  induction slots generalizing n with
  | nil => rfl
  | cons slot rest ih =>
      rw [dispatchSlot?, Entry.targets, List.findSome?_cons, ← ih]
      cases taken : p.group? slot.start with
      | none => simp [hit?, taken]
      | some extent => simp [hit?, taken]

theorem dispatch?_eq (p : Path) (entries : List (Entry σ)) :
    dispatch? p entries = (targets entries).findSome? (hit? p) := by
  induction entries with
  | nil => rfl
  | cons e rest ih =>
      rw [dispatch?, targets, List.flatMap_cons, List.findSome?_append, ← dispatchSlot?_eq]
      cases dispatchSlot? p 0 e.slots with
      | none => exact ih
      | some found => rfl

/-! ## Laying out -/

theorem layVariant_row {rule : Rule σ} {next : Nat} {source : Source} {laid : Layout Slot}
    {e : Entry σ} (variant : Nat) (kind : e.kind = rule.name)
    (ok : layVariant rule next source = .ok laid) :
    ∃ r : Row σ, r.alternative = ⟨rule, variant, source⟩ ∧ r.entry = e ∧
      laid.result = r.slot next ∧ laid.alternatives = [r.branch.text] ∧
      laid.nextSlot = next + r.width := by
  unfold layVariant at ok
  split at ok
  · cases ok
  · next text found =>
      split at ok
      · cases ok
      · next pattern read =>
          obtain rfl := Except.ok.inj ok
          obtain ⟨tree, treeRead, meant⟩ := Option.bind_eq_some_iff.1 read
          obtain ⟨f, rfl, rfl, -, -⟩ := Fragment.of_read? treeRead
          exact ⟨⟨⟨rule, variant, source⟩, f, pattern, e, found, read, Tree.groups_meaning? meant,
            kind⟩, rfl, rfl, rfl, rfl, rfl⟩

theorem layVariants_rows {rule : Rule σ} {next n : Nat} {sources : List Source}
    {laid : Layout (List Slot)} {e : Entry σ} (kind : e.kind = rule.name)
    (ok : layVariants rule next sources = .ok laid) :
    ∃ rows : List (Row σ), rows.map Row.alternative = rule.alternatives n sources ∧
      e.targets n laid.result = slotted next rows ∧
      laid.alternatives = rows.map (·.branch.text) ∧
      laid.nextSlot = next + (rows.map Row.width).sum := by
  induction sources generalizing next n laid with
  | nil =>
      obtain rfl := Except.ok.inj ok
      exact ⟨[], rfl, rfl, rfl, rfl⟩
  | cons source rest ih =>
      obtain ⟨first, firstOk, ok⟩ := bind_eq_ok ok
      obtain ⟨more, moreOk, ok⟩ := bind_eq_ok ok
      obtain rfl := Except.ok.inj ok
      obtain ⟨r, alternative, entry, slot, text, next'⟩ := layVariant_row n kind firstOk
      obtain ⟨rows, alternatives, targets, texts, last⟩ := ih (n := n + 1) moreOk
      refine ⟨r :: rows, ?_, ?_, ?_, ?_⟩
      · rw [List.map_cons, alternative, alternatives, Rule.alternatives]
      · rw [Entry.targets, targets, slot, next', slotted, entry, alternative]
      · rw [text, texts]
        rfl
      · simp only [last, next', List.map_cons, List.sum_cons, Nat.add_assoc]

theorem layRule_rows {resolve : String → Option Nat} {rule : Rule σ} {next : Nat}
    {laid : Layout (Entry σ)} (ok : layRule resolve next rule = .ok laid) :
    ∃ rows : List (Row σ), rows ≠ [] ∧
      rows.map Row.alternative = rule.alternatives 0 rule.variants ∧
      laid.result.targets 0 laid.result.slots = slotted next rows ∧
      laid.alternatives = rows.map (·.branch.text) ∧
      laid.nextSlot = next + (rows.map Row.width).sum := by
  unfold layRule at ok
  split at ok
  · cases ok
  · next some_variant =>
      obtain ⟨variants, variantsOk, ok⟩ := bind_eq_ok ok
      obtain ⟨jump, -, ok⟩ := bind_eq_ok ok
      obtain rfl := Except.ok.inj ok
      let entry : Entry σ := ⟨rule.name, variants.result, rule.options.discard, rule.options.error,
        rule.options.lineBreaks, jump, rule.options.value⟩
      obtain ⟨rows, alternatives, targets, texts, last⟩ :=
        layVariants_rows (e := entry) (n := 0) rfl variantsOk
      refine ⟨rows, ?_, alternatives, targets, texts, last⟩
      rintro rfl
      cases variants_eq : rule.variants with
      | nil => exact some_variant (by rw [variants_eq]; rfl)
      | cons source rest => rw [variants_eq] at alternatives; cases alternatives

theorem layRules_rows {mode : String} {resolve : String → Option Nat} {seen : List String}
    {next : Nat} {rules : List (Rule σ)} {laid : Layout (List (Entry σ))}
    (ok : layRules mode resolve seen next rules = .ok laid) :
    ∃ rows : List (Row σ), (rules ≠ [] → rows ≠ []) ∧
      rows.map Row.alternative = alternatives rules ∧
      targets laid.result = slotted next rows ∧
      laid.alternatives = rows.map (·.branch.text) ∧
      laid.nextSlot = next + (rows.map Row.width).sum := by
  induction rules generalizing seen next laid with
  | nil =>
      obtain rfl := Except.ok.inj ok
      exact ⟨[], nofun, rfl, rfl, rfl, rfl⟩
  | cons rule rest ih =>
      unfold layRules at ok
      split at ok
      · cases ok
      · obtain ⟨first, firstOk, ok⟩ := bind_eq_ok ok
        obtain ⟨more, moreOk, ok⟩ := bind_eq_ok ok
        obtain rfl := Except.ok.inj ok
        obtain ⟨rows, nonempty, variants, slots, texts, next'⟩ := layRule_rows firstOk
        obtain ⟨others, -, variants', slots', texts', last⟩ := ih moreOk
        refine ⟨rows ++ others, fun _ => List.append_ne_nil_of_left_ne_nil nonempty _,
          ?_, ?_, ?_, ?_⟩
        · rw [List.map_append, variants, variants']
          rfl
        · rw [slotted_append, ← slots, ← next', ← slots']
          rfl
        · rw [texts, texts', List.map_append]
        · simp only [last, next', List.map_append, List.sum_append, Nat.add_assoc]

theorem layRules_names {mode : String} {resolve : String → Option Nat} {seen : List String}
    {next : Nat} {rules : List (Rule σ)} {laid : Layout (List (Entry σ))}
    (ok : layRules mode resolve seen next rules = .ok laid) :
    (rules.map Rule.name).Nodup ∧ ∀ name ∈ rules.map Rule.name, name ∉ seen := by
  induction rules generalizing seen next laid with
  | nil => exact ⟨.nil, nofun⟩
  | cons rule rest ih =>
      unfold layRules at ok
      split at ok
      · cases ok
      · next fresh =>
          obtain ⟨first, -, ok⟩ := bind_eq_ok ok
          obtain ⟨more, moreOk, -⟩ := bind_eq_ok ok
          obtain ⟨distinct, others⟩ := ih moreOk
          have unseen : rule.name ∉ seen := by simpa using fresh
          refine ⟨List.nodup_cons.2 ⟨?_, distinct⟩, ?_⟩
          · intro again
            exact others rule.name again List.mem_cons_self
          · intro name member
            rcases List.mem_cons.1 member with rfl | later
            · exact unseen
            · exact fun old => others name later (List.mem_cons_of_mem _ old)

/-- What was laid out is joined if the tree of its pattern means something and has as many groups
as were laid out. -/
theorem exists_join {name : String} {laid : Layout (List (Entry σ))} {tree : Tree}
    (read : Tree.read? (joinBars laid.alternatives) = some tree)
    (means : (tree.meaning? .multiLineCrlf).isSome = true)
    (count : (tree.groups 1).length + 1 = laid.nextSlot) :
    ∃ mode, join name laid = .ok mode := by
  obtain ⟨pattern, meaning⟩ := Option.isSome_iff_exists.1 means
  have whole : Pattern.read? .multiLineCrlf (joinBars laid.alternatives) = some pattern := by
    rw [Pattern.read?, read, Option.bind_some]
    exact meaning
  have fits : pattern.groups.length + 1 = laid.nextSlot := by
    rw [Tree.groups_meaning? meaning]
    exact count
  refine ⟨⟨name, .ofList (joinBars laid.alternatives), pattern, laid.result⟩, ?_⟩
  simp only [join, whole, if_pos fits]

end CompiledMode

theorem Rule.keys_alternatives (rule : Rule σ) (n : Nat) (sources : List Source) :
    ((rule.alternatives n sources).map Alternative.key).Nodup ∧
      ∀ a ∈ rule.alternatives n sources, a.rule = rule ∧ n ≤ a.variant := by
  induction sources generalizing n with
  | nil => exact ⟨.nil, nofun⟩
  | cons source rest ih =>
      obtain ⟨distinct, each⟩ := ih (n + 1)
      refine ⟨List.nodup_cons.2 ⟨?_, distinct⟩, ?_⟩
      · intro again
        obtain ⟨a, member, same⟩ := List.mem_map.1 again
        have further := (each a member).2
        have number : a.variant = n := (Prod.mk.inj same).2
        omega
      · intro a member
        rcases List.mem_cons.1 member with rfl | later
        · exact ⟨rfl, Nat.le_refl n⟩
        · exact ⟨(each a later).1, Nat.le_of_succ_le (each a later).2⟩

theorem keys_alternatives {rules : List (Rule σ)} (distinct : (rules.map Rule.name).Nodup) :
    ((alternatives rules).map Alternative.key).Nodup := by
  induction rules with
  | nil => exact .nil
  | cons rule rest ih =>
      obtain ⟨fresh, distinct⟩ := List.nodup_cons.1 distinct
      have unfolded : alternatives (rule :: rest) =
          rule.alternatives 0 rule.variants ++ alternatives rest := rfl
      rw [unfolded, List.map_append, List.nodup_append]
      obtain ⟨own, each⟩ := rule.keys_alternatives 0 rule.variants
      refine ⟨own, ih distinct, ?_⟩
      intro key here other there same
      obtain ⟨a, member, rfl⟩ := List.mem_map.1 here
      obtain ⟨b, member', rfl⟩ := List.mem_map.1 there
      obtain ⟨rule', inRest, ofRule⟩ := List.mem_flatMap.1 member'
      refine fresh (List.mem_map.2 ⟨rule', inRest, ?_⟩)
      have named : a.rule.name = b.rule.name := (Prod.mk.inj same).1
      rw [(each a member).1, ((rule'.keys_alternatives 0 rule'.variants).2 b ofRule).1] at named
      exact named.symm

/-- What is known of a mode that compiled. -/
structure Compiled (mode : CompiledMode σ) (rules : List (Rule σ)) (rows : List (Row σ)) :
    Prop where
  nonempty : rows ≠ []
  alternatives_eq : rows.map Row.alternative = alternatives rules
  targets_eq : targets mode.entries = slotted 1 rows
  written_eq : mode.written.toList = joined (rows.map Row.branch)
  read : Pattern.read? .multiLineCrlf (joined (rows.map Row.branch)) = some mode.pattern
  distinct : ((alternatives rules).map Alternative.key).Nodup

theorem compile_rows {name : String} {rules : List (Rule σ)} {resolve : String → Option Nat}
    {mode : CompiledMode σ} (ok : CompiledMode.compile name rules resolve = .ok mode) :
    ∃ rows, Compiled mode rules rows := by
  unfold CompiledMode.compile at ok
  split at ok
  · cases ok
  · next some_rule =>
      obtain ⟨laid, laidOk, ok⟩ := bind_eq_ok ok
      obtain ⟨rows, nonempty, variants, slots, texts, -⟩ := CompiledMode.layRules_rows laidOk
      have distinct := keys_alternatives (CompiledMode.layRules_names laidOk).1
      have text : joinBars laid.alternatives = joined (rows.map Row.branch) := by
        rw [texts, joined, List.map_map]
        rfl
      simp only [CompiledMode.join] at ok
      split at ok
      · cases ok
      · next pattern read =>
          split at ok
          · obtain rfl := Except.ok.inj ok
            refine ⟨rows, nonempty ?_, variants, slots, ?_, text ▸ read, distinct⟩
            · intro empty
              exact some_rule (by rw [empty]; rfl)
            · rw [← text]
              simp
          · cases ok

end ModalLexer
