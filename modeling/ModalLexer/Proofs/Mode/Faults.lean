import ModalLexer.Proofs.Mode.Alone
import ModalLexer.Proofs.Mode.Numbers

/-! # Why rules and modes do not compile

The errors of compiling are described from the rules alone, outside in: what is wrong with a list
of modes (`LexerFault`), with a mode (`ModeFault`), with a rule (`RuleFault`) and with a variant
(`VariantFault`).  Whatever comes first is reported, and nothing else is (`Lexer.of_faults`).

All of this is told of any engine, be it one that reads all patterns or one that refuses some, such
as those that get too large. -/
set_option autoImplicit false
namespace ModalLexer

variable {σ : Type} {engine : Engine}

theorem bind_eq_error_iff {ε α β : Type} {x : Except ε α} {f : α → Except ε β} {e : ε} :
    x.bind f = .error e ↔ x = .error e ∨ ∃ a, x = .ok a ∧ f a = .error e := by
  cases x <;> simp [Except.bind]

/-- What is only put together from a result does not fail by itself. -/
theorem bind_return_eq_error_iff {ε α β : Type} {x : Except ε α} {f : α → β} {e : ε} :
    (x.bind fun a => .ok (f a)) = .error e ↔ x = .error e := by
  cases x <;> simp [Except.bind]

theorem exists_bind_eq_ok_iff {ε α β : Type} {x : Except ε α} {f : α → Except ε β} :
    (∃ b, x.bind f = .ok b) ↔ ∃ a, x = .ok a ∧ ∃ b, f a = .ok b := by
  cases x <;> simp [Except.bind]

theorem not_exists_error_eq_ok {ε α : Type} {e : ε} : ¬ ∃ a : α, Except.error e = .ok a := by
  rintro ⟨a, impossible⟩
  cases impossible

/-- A list is cut at an element in the same ways as a longer one, or at the new first element. -/
theorem exists_cut_cons_iff {α : Type} {p : List α → α → Prop} {x : α} {xs : List α} :
    (∃ before y after, x :: xs = before ++ y :: after ∧ p before y) ↔
      p [] x ∨ ∃ before y after, xs = before ++ y :: after ∧ p (x :: before) y := by
  constructor
  · rintro ⟨before, y, after, order, holds⟩
    cases before with
    | nil =>
        obtain ⟨rfl, rfl⟩ := List.cons.inj order
        exact .inl holds
    | cons z before =>
        obtain ⟨rfl, rfl⟩ := List.cons.inj order
        exact .inr ⟨before, y, after, rfl, holds⟩
  · rintro (holds | ⟨before, y, after, rfl, holds⟩)
    · exact ⟨[], x, xs, rfl, holds⟩
    · exact ⟨x :: before, y, after, rfl, holds⟩

theorem not_exists_cut_nil {α : Type} {p : List α → α → Prop} :
    ¬ ∃ before y after, [] = before ++ y :: after ∧ p before y := by
  rintro ⟨before, y, after, order, -⟩
  cases before <;> cases order

def FirstFault {α ε : Type} (Passes : α → Prop) (Fault : α → ε → Prop) (xs : List α) (e : ε) :
    Prop :=
  ∃ before x after, xs = before ++ x :: after ∧ (∀ b ∈ before, Passes b) ∧ Fault x e

theorem firstFault_cons {α ε : Type} {Passes : α → Prop} {Fault : α → ε → Prop} {x : α}
    {xs : List α} {e : ε} : FirstFault Passes Fault (x :: xs) e ↔
      Fault x e ∨ Passes x ∧ FirstFault Passes Fault xs e := by
  refine exists_cut_cons_iff.trans (or_congr (and_iff_right nofun) ?_)
  simp only [FirstFault, List.forall_mem_cons, and_assoc, and_left_comm (b := Passes x),
    exists_and_left]

def NewNames (seen names : List String) : Prop := names.Nodup ∧ ∀ name ∈ names, name ∉ seen

theorem newNames_nil (seen : List String) : NewNames seen [] := ⟨.nil, nofun⟩

theorem newNames_cons {name : String} {names seen : List String} :
    NewNames seen (name :: names) ↔ name ∉ seen ∧ NewNames (name :: seen) names := by
  constructor
  · rintro ⟨distinct, others⟩
    obtain ⟨apart, distinct⟩ := List.nodup_cons.1 distinct
    rw [List.forall_mem_cons] at others
    refine ⟨others.1, distinct, fun n member => ?_⟩
    rw [List.mem_cons, not_or]
    exact ⟨fun same => apart (same ▸ member), others.2 n member⟩
  · rintro ⟨fresh, distinct, others⟩
    refine ⟨List.nodup_cons.2 ⟨fun member => others name member List.mem_cons_self, distinct⟩, ?_⟩
    refine List.forall_mem_cons.2 ⟨fresh, fun n member seen => ?_⟩
    exact others n member (List.mem_cons_of_mem name seen)

/-! ## Variants -/

namespace Source

/-- A choice of nothing stands in the source, at whatever depth. -/
inductive Hollow : Source → Prop
  | here : Hollow (.oneOf [])
  | inside {source : Source} {alternatives : List Source} (member : source ∈ alternatives)
      (hollow : Hollow source) : Hollow (.oneOf alternatives)

theorem hollow_cons_iff {first : Source} {rest : List Source} :
    (oneOf (first :: rest)).Hollow ↔ ∃ source ∈ first :: rest, source.Hollow := by
  constructor
  · rintro (_ | ⟨member, hollow⟩)
    exact ⟨_, member, hollow⟩
  · rintro ⟨source, member, hollow⟩
    exact .inside member hollow

theorem fragments?_cons_eq_none_iff {first : Source} {rest : List Source} :
    fragments? (first :: rest) = none ↔ first.fragment? = none ∨ fragments? rest = none := by
  rw [fragments?]
  cases first.fragment? <;> cases fragments? rest <;> simp

mutual

/-- A source has no fragment just if a choice of nothing stands in it. -/
theorem fragment?_eq_none_iff : (source : Source) → (source.fragment? = none ↔ source.Hollow)
  | .literal text => by
      rw [fragment?]
      exact ⟨nofun, nofun⟩
  | .regex pattern => by
      rw [fragment?]
      exact ⟨nofun, nofun⟩
  | .oneOf [] => by
      rw [fragment?]
      exact ⟨fun _ => .here, fun _ => rfl⟩
  | .oneOf (first :: rest) => by
      rw [fragment?, Option.map_eq_none_iff, fragments?_eq_none_iff, hollow_cons_iff]

theorem fragments?_eq_none_iff : (sources : List Source) →
    (fragments? sources = none ↔ ∃ source ∈ sources, source.Hollow)
  | [] => by
      rw [fragments?]
      exact ⟨nofun, nofun⟩
  | first :: rest => by
      rw [fragments?_cons_eq_none_iff, fragment?_eq_none_iff, fragments?_eq_none_iff,
        List.exists_mem_cons_iff]

end

def Valid (source : Source) (engine : Engine := Pattern.read?) : Prop :=
  ∃ text pattern, source.fragment? = some text ∧ engine .standard text = some pattern

end Source

/-- What is wrong with a variant of a rule. -/
inductive VariantFault (engine : Engine) (rule : String) (source : Source) : ConfigError → Prop
  | hollow (hollow : source.Hollow) :
      VariantFault engine rule source (.malformedRule rule .noAlternative)
  | invalid {text : List Char} (written : source.fragment? = some text)
      (unread : engine .standard text = none) :
      VariantFault engine rule source (.invalidPattern rule)

namespace CompiledMode

theorem layVariant_eq_error_iff {rule : Rule σ} {next : Nat} {source : Source}
    {e : ConfigError} : layVariant rule next source engine = .error e ↔
      VariantFault engine rule.name source e := by
  constructor
  · intro failed
    unfold layVariant at failed
    split at failed
    · next missing =>
        obtain rfl := Except.error.inj failed
        exact .hollow (source.fragment?_eq_none_iff.1 missing)
    · next written =>
        split at failed
        · next unread =>
            obtain rfl := Except.error.inj failed
            exact .invalid written unread
        · cases failed
  · rintro (hollow | ⟨written, unread⟩)
    · simp only [layVariant, source.fragment?_eq_none_iff.2 hollow]
    · simp only [layVariant, written, unread]

theorem exists_layVariant_iff {rule : Rule σ} {next : Nat} {source : Source} :
    (∃ laid, layVariant rule next source engine = .ok laid) ↔ source.Valid engine := by
  constructor
  · rintro ⟨laid, ok⟩
    unfold layVariant at ok
    split at ok
    · cases ok
    · next written =>
        split at ok
        · cases ok
        · next read => exact ⟨_, _, written, read⟩
  · rintro ⟨text, pattern, written, read⟩
    simp only [layVariant, written, read]
    exact ⟨_, rfl⟩

theorem layVariants_eq_error_iff {rule : Rule σ} {next : Nat} {sources : List Source}
    {e : ConfigError} : layVariants rule next sources engine = .error e ↔
      FirstFault (Source.Valid · engine) (VariantFault engine rule.name) sources e := by
  induction sources generalizing next with
  | nil => exact iff_of_false nofun not_exists_cut_nil
  | cons source rest ih =>
      have step : layVariants rule next (source :: rest) engine = .error e ↔
          layVariant rule next source engine = .error e ∨ ∃ first,
            layVariant rule next source engine = .ok first ∧
              layVariants rule first.nextSlot rest engine = .error e := by
        refine bind_eq_error_iff.trans (or_congr_right (exists_congr fun first => ?_))
        exact and_congr_right fun _ => bind_return_eq_error_iff
      simp only [step, firstFault_cons, layVariant_eq_error_iff, ih, exists_and_right,
        exists_layVariant_iff]

theorem exists_layVariants_iff {rule : Rule σ} {next : Nat} {sources : List Source} :
    (∃ laid, layVariants rule next sources engine = .ok laid) ↔
      ∀ source ∈ sources, source.Valid engine := by
  induction sources generalizing next with
  | nil => exact iff_of_true ⟨_, rfl⟩ nofun
  | cons source rest ih =>
      have step : (∃ laid, layVariants rule next (source :: rest) engine = .ok laid) ↔
          ∃ first, layVariant rule next source engine = .ok first ∧
            ∃ more, layVariants rule first.nextSlot rest engine = .ok more := by
        refine exists_bind_eq_ok_iff.trans (exists_congr fun first => ?_)
        refine and_congr_right fun _ => exists_bind_eq_ok_iff.trans (exists_congr fun more => ?_)
        exact and_iff_left ⟨_, rfl⟩
      simp only [step, ih, exists_and_right, exists_layVariant_iff, List.forall_mem_cons]

end CompiledMode

/-! ## Rules -/

def Transition.target? : Transition → Option String
  | .none => Option.none
  | .switchTo mode => some mode
  | .push mode => some mode
  | .pop => Option.none

/-- A rule passes by itself in a lexer with the given modes. -/
structure Rule.Passes (modes : List String) (rule : Rule σ) (engine : Engine := Pattern.read?) :
    Prop where
  some_variant : rule.variants ≠ []
  valid : ∀ source ∈ rule.variants, source.Valid engine
  known : ∀ target, rule.options.transition.target? = some target → target ∈ modes

/-- What is wrong with a rule of a mode, behind rules of some names.  The faults are told in the
order in which they are looked for. -/
inductive RuleFault (engine : Engine) (mode : String) (modes earlier : List String)
    (rule : Rule σ) : ConfigError → Prop
  | duplicate (used : rule.name ∈ earlier) :
      RuleFault engine mode modes earlier rule (.duplicateRule rule.name mode)
  | bare (fresh : rule.name ∉ earlier) (bare : rule.variants = []) :
      RuleFault engine mode modes earlier rule (.malformedRule rule.name .noPattern)
  | variant {e : ConfigError} (fresh : rule.name ∉ earlier)
      (first : FirstFault (Source.Valid · engine) (VariantFault engine rule.name) rule.variants e) :
      RuleFault engine mode modes earlier rule e
  | unknown {target : String} (fresh : rule.name ∉ earlier) (some_variant : rule.variants ≠ [])
      (valid : ∀ source ∈ rule.variants, source.Valid engine)
      (leads : rule.options.transition.target? = some target) (unknown : target ∉ modes) :
      RuleFault engine mode modes earlier rule (.unknownMode rule.name target)

/-- Of the names used before only that of the rule matters. -/
theorem RuleFault.congr {mode : String} {modes earlier earlier' : List String} {rule : Rule σ}
    {e : ConfigError} (same : rule.name ∈ earlier ↔ rule.name ∈ earlier')
    (fault : RuleFault engine mode modes earlier rule e) :
    RuleFault engine mode modes earlier' rule e := by
  cases fault with
  | duplicate used => exact .duplicate (same.1 used)
  | bare fresh bare => exact .bare (mt same.2 fresh) bare
  | variant fresh first => exact .variant (mt same.2 fresh) first
  | unknown fresh some_variant valid leads unknown =>
      exact .unknown (mt same.2 fresh) some_variant valid leads unknown

/-- A rule passes by itself with a numbering of the modes. -/
structure Rule.PassesWith (resolve : String → Option Nat) (rule : Rule σ)
    (engine : Engine := Pattern.read?) : Prop where
  some_variant : rule.variants ≠ []
  valid : ∀ source ∈ rule.variants, source.Valid engine
  leads : ∃ j, CompiledMode.jump resolve rule = .ok j

namespace CompiledMode

section Passing

variable {resolve : String → Option Nat} {rule : Rule σ} {mode : String} {seen : List String}
  {next : Nat}

theorem exists_layRule_iff_passesWith :
    (∃ laid, layRule resolve next rule engine = .ok laid) ↔ rule.PassesWith resolve engine := by
  by_cases bare : rule.variants = []
  · rw [layRule, if_pos (List.isEmpty_iff.2 bare)]
    exact iff_of_false not_exists_error_eq_ok fun passes => passes.some_variant bare
  · have step : (∃ laid, layRule resolve next rule engine = .ok laid) ↔
        ∃ laid, layVariants rule next rule.variants engine = .ok laid ∧
          ∃ j, jump resolve rule = .ok j := by
      rw [layRule, if_neg (mt List.isEmpty_iff.1 bare)]
      refine exists_bind_eq_ok_iff.trans (exists_congr fun laid => and_congr_right fun _ => ?_)
      exact exists_bind_eq_ok_iff.trans (exists_congr fun j => and_iff_left ⟨_, rfl⟩)
    rw [step, exists_and_right, exists_layVariants_iff]
    exact ⟨fun both => ⟨bare, both.1, both.2⟩, fun passes => ⟨passes.valid, passes.leads⟩⟩

theorem exists_layRules_cons_iff {rest : List (Rule σ)} :
    (∃ laid, layRules mode resolve seen next (rule :: rest) engine = .ok laid) ↔
      rule.name ∉ seen ∧ ∃ first, layRule resolve next rule engine = .ok first ∧
        ∃ more, layRules mode resolve (rule.name :: seen) first.nextSlot rest engine = .ok more := by
  by_cases used : rule.name ∈ seen
  · have known : seen.contains rule.name = true := by simpa using used
    rw [layRules, if_pos known]
    exact iff_of_false not_exists_error_eq_ok fun both => both.1 used
  · have new : ¬ seen.contains rule.name = true := by simpa using used
    rw [layRules, if_neg new, and_iff_right used]
    refine exists_bind_eq_ok_iff.trans (exists_congr fun first => and_congr_right fun _ => ?_)
    exact exists_bind_eq_ok_iff.trans (exists_congr fun more => and_iff_left ⟨_, rfl⟩)

theorem exists_layRules_iff_passesWith {rules : List (Rule σ)} :
    (∃ laid, layRules mode resolve seen next rules engine = .ok laid) ↔
      NewNames seen (rules.map Rule.name) ∧ ∀ rule ∈ rules, rule.PassesWith resolve engine := by
  induction rules generalizing seen next with
  | nil => exact iff_of_true ⟨_, rfl⟩ ⟨newNames_nil seen, nofun⟩
  | cons rule rest ih =>
      rw [exists_layRules_cons_iff, List.map_cons, newNames_cons, List.forall_mem_cons]
      simp only [ih, exists_and_right, exists_layRule_iff_passesWith]
      exact and_assoc.symm.trans and_and_and_comm

end Passing

section Resolving

def Knows (resolve : String → Option Nat) (modes : List String) : Prop :=
  ∀ name, resolve name = none ↔ name ∉ modes

variable {resolve : String → Option Nat} {modes : List String} (knows : Knows resolve modes)
  {rule : Rule σ} {e : ConfigError}

include knows

theorem Knows.exists_iff {name : String} : (∃ number, resolve name = some number) ↔
    name ∈ modes := by
  rw [← Option.ne_none_iff_exists', Ne, knows name, not_not]

theorem jump_eq_error_iff : jump resolve rule = .error e ↔
    ∃ target, rule.options.transition.target? = some target ∧ target ∉ modes ∧
      e = .unknownMode rule.name target := by
  unfold jump
  cases rule.options.transition with
  | none => simp [Transition.target?]
  | pop => simp [Transition.target?]
  | switchTo target =>
      simp only [Transition.target?, Option.some.injEq, exists_eq_left', ← knows target]
      cases resolve target <;> simp [eq_comm]
  | push target =>
      simp only [Transition.target?, Option.some.injEq, exists_eq_left', ← knows target]
      cases resolve target <;> simp [eq_comm]

theorem exists_jump_iff : (∃ j, jump resolve rule = .ok j) ↔
    ∀ target, rule.options.transition.target? = some target → target ∈ modes := by
  unfold jump
  cases rule.options.transition with
  | none => simp [Transition.target?]
  | pop => simp [Transition.target?]
  | switchTo target =>
      simp only [Transition.target?, Option.some.injEq, forall_eq', ← knows.exists_iff]
      cases resolve target <;> simp
  | push target =>
      simp only [Transition.target?, Option.some.injEq, forall_eq', ← knows.exists_iff]
      cases resolve target <;> simp

theorem layRule_eq_error_iff {mode : String} {earlier : List String} {next : Nat}
    (fresh : rule.name ∉ earlier) : layRule resolve next rule engine = .error e ↔
      RuleFault engine mode modes earlier rule e := by
  by_cases bare : rule.variants = []
  · rw [layRule, if_pos (List.isEmpty_iff.2 bare), Except.error.injEq]
    constructor
    · rintro rfl
      exact .bare fresh bare
    · rintro (used | _ | ⟨-, first⟩ | ⟨-, some_variant⟩)
      · exact absurd used fresh
      · rfl
      · rw [bare] at first
        exact absurd first not_exists_cut_nil
      · exact absurd bare some_variant
  · have step : layRule resolve next rule engine = .error e ↔
        layVariants rule next rule.variants engine = .error e ∨
          ∃ laid, layVariants rule next rule.variants engine = .ok laid ∧
            jump resolve rule = .error e := by
      rw [layRule, if_neg (mt List.isEmpty_iff.1 bare)]
      refine bind_eq_error_iff.trans (or_congr_right (exists_congr fun laid => ?_))
      exact and_congr_right fun _ => bind_return_eq_error_iff
    rw [step, exists_and_right, exists_layVariants_iff, layVariants_eq_error_iff,
      jump_eq_error_iff knows]
    constructor
    · rintro (first | ⟨valid, target, leads, unknown, rfl⟩)
      · exact .variant fresh first
      · exact .unknown fresh bare valid leads unknown
    · rintro (used | ⟨-, empty⟩ | ⟨-, first⟩ | ⟨-, -, valid, leads, unknown⟩)
      · exact absurd used fresh
      · exact absurd empty bare
      · exact .inl first
      · exact .inr ⟨valid, _, leads, unknown, rfl⟩

theorem Knows.passesWith_iff : rule.PassesWith resolve engine ↔ rule.Passes modes engine := by
  have leads : (∃ j, jump resolve rule = .ok j) ↔
      ∀ target, rule.options.transition.target? = some target → target ∈ modes :=
    exists_jump_iff knows
  exact ⟨fun passes => ⟨passes.some_variant, passes.valid, leads.1 passes.leads⟩,
    fun passes => ⟨passes.some_variant, passes.valid, leads.2 passes.known⟩⟩

theorem exists_layRule_iff {next : Nat} :
    (∃ laid, layRule resolve next rule engine = .ok laid) ↔ rule.Passes modes engine :=
  exists_layRule_iff_passesWith.trans knows.passesWith_iff

theorem layRules_cons_eq_error_iff {mode : String} {seen : List String} {next : Nat}
    {rest : List (Rule σ)} : layRules mode resolve seen next (rule :: rest) engine = .error e ↔
      RuleFault engine mode modes seen rule e ∨ rule.name ∉ seen ∧ ∃ first,
        layRule resolve next rule engine = .ok first ∧
          layRules mode resolve (rule.name :: seen) first.nextSlot rest engine = .error e := by
  by_cases used : rule.name ∈ seen
  · have known : seen.contains rule.name = true := by simpa using used
    rw [layRules, if_pos known, Except.error.injEq]
    constructor
    · rintro rfl
      exact .inl (.duplicate used)
    · rintro ((_ | ⟨fresh⟩ | ⟨fresh⟩ | ⟨fresh⟩) | ⟨fresh, -⟩)
      · rfl
      all_goals exact absurd used fresh
  · have new : ¬ seen.contains rule.name = true := by simpa using used
    rw [layRules, if_neg new, ← layRule_eq_error_iff knows used]
    refine bind_eq_error_iff.trans (or_congr_right ?_)
    rw [and_iff_right used]
    exact exists_congr fun first => and_congr_right fun _ => bind_return_eq_error_iff

theorem layRules_eq_error_iff {mode : String} {seen : List String} {next : Nat}
    {rules : List (Rule σ)} : layRules mode resolve seen next rules engine = .error e ↔
      ∃ before rule after, rules = before ++ rule :: after ∧
        (NewNames seen (before.map Rule.name) ∧ ∀ r ∈ before, r.Passes modes engine) ∧
          RuleFault engine mode modes ((before.map Rule.name).reverse ++ seen) rule e := by
  induction rules generalizing seen next with
  | nil => exact iff_of_false nofun not_exists_cut_nil
  | cons rule rest ih =>
      rw [layRules_cons_eq_error_iff knows, exists_cut_cons_iff]
      refine or_congr (and_iff_right ⟨newNames_nil seen, nofun⟩).symm ?_
      simp only [ih, exists_and_right, exists_layRule_iff knows, List.map_cons, newNames_cons,
        List.forall_mem_cons, List.reverse_cons, List.append_assoc, List.singleton_append]
      constructor
      · rintro ⟨fresh, passes, before, r, ⟨after, order⟩, ⟨new, passed⟩, fault⟩
        exact ⟨before, r, ⟨after, order⟩, ⟨⟨fresh, new⟩, passes, passed⟩, fault⟩
      · rintro ⟨before, r, ⟨after, order⟩, ⟨⟨fresh, new⟩, passes, passed⟩, fault⟩
        exact ⟨fresh, passes, before, r, ⟨after, order⟩, ⟨new, passed⟩, fault⟩

theorem exists_layRules_iff {mode : String} {seen : List String} {next : Nat}
    {rules : List (Rule σ)} : (∃ laid, layRules mode resolve seen next rules engine = .ok laid) ↔
      NewNames seen (rules.map Rule.name) ∧ ∀ rule ∈ rules, rule.Passes modes engine := by
  simp only [exists_layRules_iff_passesWith, knows.passesWith_iff]

end Resolving

end CompiledMode

/-! ## Modes -/

def expectedSlots (rules : List (Rule σ)) (engine : Engine := Pattern.read?) : Nat :=
  1 + ((alternatives rules).filterMap (·.slotWidth? engine)).sum

/-- What is wrong with a mode. -/
inductive ModeFault (engine : Engine) (modes : List String) (m : Mode σ) : ConfigError → Prop
  | empty (empty : m.rules = []) : ModeFault engine modes m (.emptyMode m.name)
  | rule {before after : List (Rule σ)} {rule : Rule σ} {e : ConfigError}
      (order : m.rules = before ++ rule :: after) (distinct : (before.map Rule.name).Nodup)
      (passed : ∀ r ∈ before, r.Passes modes engine)
      (fault : RuleFault engine m.name modes (before.map Rule.name) rule e) :
      ModeFault engine modes m e
  | build (some_rule : m.rules ≠ []) (distinct : (m.rules.map Rule.name).Nodup)
      (passed : ∀ r ∈ m.rules, r.Passes modes engine)
      (unread : engine .multiLineCrlf (writtenFrom (alternatives m.rules)) = none) :
      ModeFault engine modes m (.build m.name)
  | slotMismatch {pattern : Pattern} (some_rule : m.rules ≠ [])
      (distinct : (m.rules.map Rule.name).Nodup) (passed : ∀ r ∈ m.rules, r.Passes modes engine)
      (read : engine .multiLineCrlf (writtenFrom (alternatives m.rules)) = some pattern)
      (differ : pattern.groups.length + 1 ≠ expectedSlots m.rules engine) :
      ModeFault engine modes m
        (.slotMismatch m.name (expectedSlots m.rules engine) (pattern.groups.length + 1))

namespace CompiledMode

theorem layVariant_texts {rule : Rule σ} {next n : Nat} {source : Source} {laid : Layout Slot}
    (ok : layVariant rule next source engine = .ok laid) : ∃ text width,
      (⟨rule, n, source⟩ : Alternative σ).written? = some text ∧
      (⟨rule, n, source⟩ : Alternative σ).slotWidth? engine = some width ∧
      laid.alternatives = [text] ∧ laid.nextSlot = next + width := by
  unfold layVariant at ok
  split at ok
  · cases ok
  · next written =>
      split at ok
      · cases ok
      · next read =>
          obtain rfl := Except.ok.inj ok
          refine ⟨_, _, ?_, ?_, rfl, rfl⟩
          · rw [Alternative.written?, written, Option.map_some]
          · rw [Alternative.slotWidth?, written, Option.bind_some, read, Option.map_some]
            rfl

theorem layVariants_texts {rule : Rule σ} {next n : Nat} {sources : List Source}
    {laid : Layout (List Slot)} (ok : layVariants rule next sources engine = .ok laid) :
    laid.alternatives = (rule.alternatives n sources).filterMap (·.written?) ∧
      laid.nextSlot = next +
        ((rule.alternatives n sources).filterMap (·.slotWidth? engine)).sum := by
  induction sources generalizing next n laid with
  | nil =>
      obtain rfl := Except.ok.inj ok
      exact ⟨rfl, rfl⟩
  | cons source rest ih =>
      obtain ⟨first, firstOk, ok⟩ := bind_eq_ok ok
      obtain ⟨more, moreOk, ok⟩ := bind_eq_ok ok
      obtain rfl := Except.ok.inj ok
      obtain ⟨text, width, written, wide, texts, next'⟩ := layVariant_texts (n := n) firstOk
      obtain ⟨texts', last⟩ := ih (n := n + 1) moreOk
      simp only [Rule.alternatives, List.filterMap_cons, written, wide, List.sum_cons, texts,
        texts', last, next', List.singleton_append, Nat.add_assoc, and_self]

theorem layRule_texts {resolve : String → Option Nat} {next : Nat} {rule : Rule σ}
    {laid : Layout (Entry σ)} (ok : layRule resolve next rule engine = .ok laid) :
    laid.alternatives = (rule.alternatives 0 rule.variants).filterMap (·.written?) ∧
      laid.nextSlot = next +
        ((rule.alternatives 0 rule.variants).filterMap (·.slotWidth? engine)).sum := by
  unfold layRule at ok
  split at ok
  · cases ok
  · obtain ⟨variants, variantsOk, ok⟩ := bind_eq_ok ok
    obtain ⟨j, -, ok⟩ := bind_eq_ok ok
    obtain rfl := Except.ok.inj ok
    exact layVariants_texts variantsOk

theorem layRules_texts {mode : String} {resolve : String → Option Nat} {seen : List String}
    {next : Nat} {rules : List (Rule σ)} {laid : Layout (List (Entry σ))}
    (ok : layRules mode resolve seen next rules engine = .ok laid) :
    laid.alternatives = (alternatives rules).filterMap (·.written?) ∧
      laid.nextSlot = next + ((alternatives rules).filterMap (·.slotWidth? engine)).sum := by
  induction rules generalizing seen next laid with
  | nil =>
      obtain rfl := Except.ok.inj ok
      exact ⟨rfl, rfl⟩
  | cons rule rest ih =>
      unfold layRules at ok
      split at ok
      · cases ok
      · obtain ⟨first, firstOk, ok⟩ := bind_eq_ok ok
        obtain ⟨more, moreOk, ok⟩ := bind_eq_ok ok
        obtain rfl := Except.ok.inj ok
        obtain ⟨texts, next'⟩ := layRule_texts firstOk
        obtain ⟨texts', last⟩ := ih moreOk
        have apart : alternatives (rule :: rest) =
            rule.alternatives 0 rule.variants ++ alternatives rest := List.flatMap_cons
        rw [apart, List.filterMap_append, List.filterMap_append, List.sum_append, ← Nat.add_assoc,
          ← next', ← last, ← texts', ← texts]
        exact ⟨rfl, rfl⟩

/-- Rules that are laid out give the joined pattern and the room that were told above. -/
theorem layRules_result {mode : String} {resolve : String → Option Nat} {rules : List (Rule σ)}
    {laid : Layout (List (Entry σ))} (ok : layRules mode resolve [] 1 rules engine = .ok laid) :
    joinBars laid.alternatives = writtenFrom (alternatives rules) ∧
      laid.nextSlot = expectedSlots rules engine := by
  obtain ⟨texts, last⟩ := layRules_texts ok
  exact ⟨congrArg joinBars texts, last⟩

theorem join_eq_error_iff {mode : String} {laid : Layout (List (Entry σ))} {e : ConfigError} :
    join mode laid engine = .error e ↔
      engine .multiLineCrlf (joinBars laid.alternatives) = none ∧ e = .build mode ∨
        ∃ pattern, engine .multiLineCrlf (joinBars laid.alternatives) = some pattern ∧
          pattern.groups.length + 1 ≠ laid.nextSlot ∧
            e = .slotMismatch mode laid.nextSlot (pattern.groups.length + 1) := by
  simp only [join]
  cases engine .multiLineCrlf (joinBars laid.alternatives) with
  | none => simp [eq_comm]
  | some pattern =>
      by_cases same : pattern.groups.length + 1 = laid.nextSlot
      · simp [same]
      · simp [same, eq_comm (b := e)]

variable {modes : List String} {m : Mode σ} {resolve : String → Option Nat}

/-- A mode does not compile just if something is wrong with it, and then that is reported. -/
theorem compile_eq_error_iff (knows : Knows resolve modes) {e : ConfigError} :
    compile m.name m.rules resolve engine = .error e ↔ ModeFault engine modes m e := by
  by_cases empty : m.rules = []
  · rw [compile, if_pos (List.isEmpty_iff.2 empty), Except.error.injEq]
    constructor
    · rintro rfl
      exact .empty empty
    · rintro (_ | ⟨order⟩ | ⟨some_rule⟩ | ⟨some_rule⟩)
      · rfl
      · rw [empty] at order
        exact absurd order (by simp)
      all_goals exact absurd empty some_rule
  · rw [compile, if_neg (mt List.isEmpty_iff.1 empty), bind_eq_error_iff,
      layRules_eq_error_iff knows]
    constructor
    · rintro (⟨before, rule, after, order, ⟨new, passed⟩, fault⟩ | ⟨laid, ok, failed⟩)
      · exact .rule order new.1 passed (fault.congr (by simp))
      · obtain ⟨new, passed⟩ := (exists_layRules_iff knows).1 ⟨laid, ok⟩
        obtain ⟨text, slots⟩ := layRules_result ok
        rw [join_eq_error_iff, text, slots] at failed
        rcases failed with ⟨unread, rfl⟩ | ⟨pattern, read, differ, rfl⟩
        · exact .build empty new.1 passed unread
        · exact .slotMismatch empty new.1 passed read differ
    · intro fault
      -- Rules of different names that pass are laid out.
      have laidOut (distinct : (m.rules.map Rule.name).Nodup)
          (passed : ∀ r ∈ m.rules, r.Passes modes engine) :
          ∃ laid, layRules m.name resolve [] 1 m.rules engine = .ok laid :=
        (exists_layRules_iff knows).2 ⟨⟨distinct, fun _ _ => List.not_mem_nil⟩, passed⟩
      cases fault with
      | empty none => exact absurd none empty
      | rule order distinct passed fault =>
          refine .inl ⟨_, _, _, order, ⟨⟨distinct, fun _ _ => List.not_mem_nil⟩, passed⟩, ?_⟩
          exact fault.congr (by simp)
      | build some_rule distinct passed unread =>
          obtain ⟨laid, ok⟩ := laidOut distinct passed
          obtain ⟨text, slots⟩ := layRules_result ok
          refine .inr ⟨laid, ok, join_eq_error_iff.2 (.inl ⟨?_, rfl⟩)⟩
          rw [text, unread]
      | slotMismatch some_rule distinct passed read differ =>
          obtain ⟨laid, ok⟩ := laidOut distinct passed
          obtain ⟨text, slots⟩ := layRules_result ok
          refine .inr ⟨laid, ok, join_eq_error_iff.2 (.inr ?_)⟩
          rw [text, slots]
          exact ⟨_, read, differ, rfl⟩

end CompiledMode

/-! ## Lexers -/

inductive LexerFault (engine : Engine) (modes : List (Mode σ)) : ConfigError → Prop
  | noModes (empty : modes = []) : LexerFault engine modes .noModes
  | duplicateMode {before after : List (Mode σ)} {m : Mode σ}
      (order : modes = before ++ m :: after) (distinct : (before.map Mode.name).Nodup)
      (used : m.name ∈ before.map Mode.name) : LexerFault engine modes (.duplicateMode m.name)
  | mode {e : ConfigError} (distinct : (modes.map Mode.name).Nodup)
      (first : FirstFault (fun m => ∀ e, ¬ ModeFault engine (modes.map Mode.name) m e)
        (ModeFault engine (modes.map Mode.name)) modes e) : LexerFault engine modes e

namespace Lexer

theorem repeatedName?_eq_some_iff {seen : List String} {modes : List (Mode σ)} {name : String} :
    repeatedName? seen modes = some name ↔ ∃ before m after, modes = before ++ m :: after ∧
      NewNames seen (before.map Mode.name) ∧
        m.name ∈ (before.map Mode.name).reverse ++ seen ∧ m.name = name := by
  induction modes generalizing seen with
  | nil => exact iff_of_false nofun not_exists_cut_nil
  | cons m rest ih =>
      rw [exists_cut_cons_iff, repeatedName?]
      simp only [List.map_cons, newNames_cons, List.reverse_cons, List.append_assoc,
        List.singleton_append, and_assoc]
      by_cases used : m.name ∈ seen
      · simp [used, newNames_nil]
      · have new : ¬ seen.contains m.name = true := by simpa using used
        rw [if_neg new, ih]
        simp [used]

theorem compileEach_eq_error_iff {resolve : String → Option Nat} {modes : List (Mode σ)}
    {e : ConfigError} : compileEach resolve modes engine = .error e ↔
      FirstFault (fun m => ∃ c, CompiledMode.compile m.name m.rules resolve engine = .ok c)
        (fun m e => CompiledMode.compile m.name m.rules resolve engine = .error e) modes e := by
  induction modes with
  | nil => exact iff_of_false nofun not_exists_cut_nil
  | cons m rest ih =>
      rw [firstFault_cons, ← ih, ← exists_and_right]
      refine bind_eq_error_iff.trans (or_congr_right (exists_congr fun first => ?_))
      exact and_congr_right fun _ => bind_return_eq_error_iff

theorem exists_ok_iff {ε α : Type} {x : Except ε α} : (∃ a, x = .ok a) ↔ ∀ e, x ≠ .error e := by
  cases x <;> simp

variable {modes : List (Mode σ)} {e : ConfigError}

theorem knows_modeNumber? (modes : List (Mode σ)) :
    CompiledMode.Knows (modeNumber? modes) (modes.map Mode.name) := by
  intro name
  rw [modeNumber?, List.findIdx?_eq_none_iff]
  simp

theorem repeatedName?_nil_eq_some_iff {name : String} : repeatedName? [] modes = some name ↔
    ∃ before m after, modes = before ++ m :: after ∧ (before.map Mode.name).Nodup ∧
      m.name ∈ before.map Mode.name ∧ m.name = name := by
  simp [repeatedName?_eq_some_iff, NewNames]

theorem repeatedName?_eq_none_iff : repeatedName? [] modes = none ↔
    (modes.map Mode.name).Nodup := by
  refine ⟨fun none => (distinct_of_repeatedName?_eq_none none).1, fun distinct => ?_⟩
  rw [Option.eq_none_iff_forall_ne_some]
  intro name repeated
  obtain ⟨before, m, after, rfl, -, used, -⟩ := repeatedName?_nil_eq_some_iff.1 repeated
  rw [List.map_append, List.map_cons, List.nodup_append] at distinct
  exact distinct.2.2 m.name used m.name List.mem_cons_self rfl

theorem compileEach_eq_error_iff_fault : compileEach (modeNumber? modes) modes engine = .error e ↔
    FirstFault (fun m => ∀ e, ¬ ModeFault engine (modes.map Mode.name) m e)
      (ModeFault engine (modes.map Mode.name)) modes e := by
  have knows := knows_modeNumber? modes
  simp only [compileEach_eq_error_iff, exists_ok_iff, ne_eq,
    CompiledMode.compile_eq_error_iff knows]

theorem ofModes_eq_error_iff : ofModes modes engine = .error e ↔ LexerFault engine modes e := by
  by_cases empty : modes = []
  · rw [ofModes, if_pos (List.isEmpty_iff.2 empty), Except.error.injEq]
    constructor
    · rintro rfl
      exact .noModes empty
    · rintro (_ | ⟨order⟩ | ⟨-, first⟩)
      · rfl
      · rw [empty] at order
        exact absurd order (by simp)
      · rw [empty] at first
        exact absurd first not_exists_cut_nil
  · rw [ofModes, if_neg (mt List.isEmpty_iff.1 empty)]
    cases repeated : repeatedName? [] modes with
    | some name =>
        obtain ⟨before, m, after, order, distinct, used, rfl⟩ :=
          repeatedName?_nil_eq_some_iff.1 repeated
        simp only [Except.error.injEq]
        constructor
        · rintro rfl
          exact .duplicateMode order distinct used
        · intro fault
          cases fault with
          | noModes none => exact absurd none empty
          | duplicateMode order' distinct' used' =>
              have again := repeatedName?_nil_eq_some_iff.2 ⟨_, _, _, order', distinct', used', rfl⟩
              rw [Option.some.inj (repeated.symm.trans again)]
          | mode all first =>
              rw [repeatedName?_eq_none_iff.2 all] at repeated
              cases repeated
    | none =>
        have all := repeatedName?_eq_none_iff.1 repeated
        refine bind_return_eq_error_iff.trans (compileEach_eq_error_iff_fault.trans ?_)
        refine ⟨.mode all, fun fault => ?_⟩
        cases fault with
        | noModes none => exact absurd none empty
        | duplicateMode order distinct used =>
            have again := repeatedName?_nil_eq_some_iff.2 ⟨_, _, _, order, distinct, used, rfl⟩
            rw [again] at repeated
            cases repeated
        | mode all first => exact first

/-- Rules without modes fail as one mode would whose transitions all lead nowhere. -/
theorem ofRules_eq_error_iff {rules : List (Rule σ)} :
    ofRules rules engine = .error e ↔ ModeFault engine [] ⟨main, rules⟩ e := by
  have knows : CompiledMode.Knows (fun _ => none) [] := fun name =>
    iff_of_true rfl List.not_mem_nil
  exact bind_return_eq_error_iff.trans
    (CompiledMode.compile_eq_error_iff (m := ⟨main, rules⟩) knows)

def CompiledAs (engine : Engine) (resolve : String → Option Nat) (m : Mode σ)
    (c : CompiledMode σ) : Prop :=
  c.name = m.name ∧ CompiledMode.compile m.name m.rules resolve engine = .ok c

theorem exists_modes_of_no_fault (sound : ∀ e, ¬ LexerFault engine modes e) :
    ∃ l, ofModes modes engine = .ok l ∧
      List.Forall₂ (CompiledAs engine (modeNumber? modes)) modes l.modes := by
  obtain ⟨l, ok⟩ := exists_ok_iff.2 fun e => mt ofModes_eq_error_iff.1 (sound e)
  refine ⟨l, ok, (compileEach_eq (compileEach_of_ofModes ok).2).imp fun m c made => ?_⟩
  exact ⟨CompiledMode.name_of_compile made, made⟩

theorem exists_mode_of_no_fault {rules : List (Rule σ)}
    (sound : ∀ e, ¬ ModeFault engine [] ⟨main, rules⟩ e) :
    ∃ l, ofRules rules engine = .ok l ∧
      List.Forall₂ (CompiledAs engine fun _ => none) [⟨main, rules⟩] l.modes := by
  obtain ⟨l, ok⟩ := exists_ok_iff.2 fun e => mt ofRules_eq_error_iff.1 (sound e)
  obtain ⟨c, made, modes⟩ := compile_of_ofRules ok
  refine ⟨l, ok, ?_⟩
  rw [modes]
  exact .cons ⟨CompiledMode.name_of_compile made, made⟩ .nil

/-- Whatever patterns an engine refuses, modes and rules fail to compile just for the reasons told
above, with the first one; if there is none, they compile to one mode for each mode that was given,
in order. -/
theorem of_faults (engine : Engine) (modes : List (Mode σ)) (rules : List (Rule σ)) :
    (∀ e, ofModes modes engine = .error e ↔ LexerFault engine modes e) ∧
    ((∀ e, ¬ LexerFault engine modes e) → ∃ l, ofModes modes engine = .ok l ∧
      List.Forall₂ (CompiledAs engine (modeNumber? modes)) modes l.modes) ∧
    (∀ e, ofRules rules engine = .error e ↔ ModeFault engine [] ⟨main, rules⟩ e) ∧
    ((∀ e, ¬ ModeFault engine [] ⟨main, rules⟩ e) → ∃ l, ofRules rules engine = .ok l ∧
      List.Forall₂ (CompiledAs engine fun _ => none) [⟨main, rules⟩] l.modes) :=
  ⟨fun _ => ofModes_eq_error_iff, exists_modes_of_no_fault, fun _ => ofRules_eq_error_iff,
    exists_mode_of_no_fault⟩

/-- The name of the second mode is reported, not the pattern of the first or the missing rules of the
second. -/
example : ofModes [⟨"main", [(Rule.regex "open" "(" : Rule Unit)]⟩, ⟨"main", []⟩] =
    .error (.duplicateMode "main") := rfl

end Lexer

end ModalLexer
