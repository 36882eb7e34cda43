import ModalLexer.Proofs.Mode.Entries

/-! # Rules that compile alike

What a rule matches depends on its name, its variants and whether it must end at the edge of a word.
If rules are exchanged for others that agree in that, and all modes they lead to are found, then the
mode still compiles, to the same pattern and with the same slots (`CompiledMode.compile_alike`).
What its entries say beyond that is what the new rules say. -/
set_option autoImplicit false
namespace ModalLexer

variable {σ : Type}

/-- Rules that match the same. -/
structure Rule.Alike (rule rule' : Rule σ) : Prop where
  name : rule'.name = rule.name
  variants : rule'.variants = rule.variants
  wordBound : rule'.options.wordBound = rule.options.wordBound

theorem Rule.Alike.refl (rule : Rule σ) : rule.Alike rule := ⟨rfl, rfl, rfl⟩

/-- Entries of two modes with the same slots, which came of rules that are related. -/
structure Entry.Twin (r : Rule σ → Rule σ → Prop) (resolve resolve' : String → Option Nat)
    (e e' : Entry σ) : Prop where
  slots : e'.slots = e.slots
  rules : ∃ rule rule', r rule rule' ∧ e.Follows resolve rule ∧ e'.Follows resolve' rule'

namespace CompiledMode

variable {r : Rule σ → Rule σ → Prop} {resolve resolve' : String → Option Nat}

theorem layVariants_alike {rule rule' : Rule σ} (alike : rule.Alike rule') (next : Nat)
    (sources : List Source) :
    layVariants rule' next sources = layVariants rule next sources := by
  induction sources generalizing next with
  | nil => rfl
  | cons source rest ih =>
      have first : layVariant rule' next source = layVariant rule next source := by
        simp only [layVariant, alike.name, alike.wordBound]
      simp only [layVariants, first, ih]

theorem layRule_alike {rule rule' : Rule σ} {next : Nat} {laid : Layout (Entry σ)}
    (alike : rule.Alike rule') {j : Jump} (found : jump resolve' rule' = .ok j)
    (ok : layRule resolve next rule = .ok laid) :
    ∃ laid', layRule resolve' next rule' = .ok laid' ∧
      laid'.result.slots = laid.result.slots ∧ laid'.alternatives = laid.alternatives ∧
      laid'.nextSlot = laid.nextSlot := by
  unfold layRule at ok
  split at ok
  · cases ok
  · next some_variant =>
      obtain ⟨variants, variantsOk, ok⟩ := bind_eq_ok ok
      obtain ⟨way, -, ok⟩ := bind_eq_ok ok
      obtain rfl := Except.ok.inj ok
      rw [← layVariants_alike alike, ← alike.variants] at variantsOk
      rw [← alike.variants] at some_variant
      let entry : Entry σ := ⟨rule'.name, variants.result, rule'.options.discard,
        rule'.options.error, rule'.options.lineBreaks, j, rule'.options.value⟩
      refine ⟨⟨entry, variants.alternatives, variants.nextSlot⟩, ?_, rfl, rfl, rfl⟩
      rw [layRule, if_neg some_variant, variantsOk, found]
      rfl

theorem layRules_alike {mode : String} (mode' : String) {seen : List String} {next : Nat}
    {rules rules' : List (Rule σ)} {laid : Layout (List (Entry σ))}
    (alike : ∀ rule rule', r rule rule' → rule.Alike rule') (related : List.Forall₂ r rules rules')
    (found : ∀ rule' ∈ rules', ∃ j, jump resolve' rule' = .ok j)
    (ok : layRules mode resolve seen next rules = .ok laid) :
    ∃ laid', layRules mode' resolve' seen next rules' = .ok laid' ∧
      List.Forall₂ (Entry.Twin r resolve resolve') laid.result laid'.result ∧
      laid'.alternatives = laid.alternatives ∧ laid'.nextSlot = laid.nextSlot := by
  induction related generalizing seen next laid with
  | nil =>
      obtain rfl := Except.ok.inj ok
      exact ⟨_, rfl, .nil, rfl, rfl⟩
  | @cons rule rule' rest rest' head tail ih =>
      unfold layRules at ok
      split at ok
      · cases ok
      · next fresh =>
          obtain ⟨first, firstOk, ok⟩ := bind_eq_ok ok
          obtain ⟨more, moreOk, ok⟩ := bind_eq_ok ok
          obtain rfl := Except.ok.inj ok
          have same := alike rule rule' head
          obtain ⟨j, jumps⟩ := found rule' List.mem_cons_self
          obtain ⟨first', firstOk', slots, texts, next'⟩ := layRule_alike same jumps firstOk
          have others := fun rule member => found rule (List.mem_cons_of_mem rule' member)
          obtain ⟨more', moreOk', twins, texts', last⟩ := ih others moreOk
          have twin : first.result.Twin r resolve resolve' first'.result :=
            ⟨slots, rule, rule', head, layRule_follows firstOk, layRule_follows firstOk'⟩
          rw [← same.name] at fresh moreOk'
          rw [← next'] at moreOk'
          refine ⟨⟨first'.result :: more'.result, first'.alternatives ++ more'.alternatives,
            more'.nextSlot⟩, ?_, .cons twin twins, ?_, last⟩
          · rw [layRules, if_neg fresh, firstOk']
            simp only [bind, Except.bind, moreOk']
            rfl
          · simp only [texts, texts']

/-- Rules that match the same as those of a mode that compiles do compile, provided that the modes
they lead to are found, and match the same. -/
theorem compile_alike {name : String} (name' : String) {rules rules' : List (Rule σ)}
    {mode : CompiledMode σ}
    (alike : ∀ rule rule', r rule rule' → rule.Alike rule') (related : List.Forall₂ r rules rules')
    (found : ∀ rule' ∈ rules', ∃ j, jump resolve' rule' = .ok j)
    (ok : compile name rules resolve = .ok mode) :
    ∃ mode', compile name' rules' resolve' = .ok mode' ∧ mode'.pattern = mode.pattern ∧
      List.Forall₂ (Entry.Twin r resolve resolve') mode.entries mode'.entries := by
  unfold compile at ok
  split at ok
  · cases ok
  · next some_rule =>
      obtain ⟨laid, laidOk, ok⟩ := bind_eq_ok ok
      obtain ⟨laid', laidOk', twins, texts, next'⟩ :=
        layRules_alike name' alike related found laidOk
      have some_rule' : ¬ rules'.isEmpty = true := by
        cases related with
        | nil => exact some_rule
        | cons head tail => exact Bool.false_ne_true
      simp only [join] at ok
      split at ok
      · cases ok
      · next pattern read =>
          split at ok
          · next fits =>
              obtain rfl := Except.ok.inj ok
              refine ⟨⟨name', .ofList (joinBars laid.alternatives), pattern, laid'.result⟩, ?_, rfl,
                twins⟩
              rw [compile, if_neg some_rule', laidOk']
              simp only [Except.bind, join, texts, next', read, if_pos fits]
          · cases ok

end CompiledMode

end ModalLexer
