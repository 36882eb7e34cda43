import ModalLexer.Proofs.Mode.Faults
import ModalLexer.Proofs.Tree.Terms

/-! # How choices are nested

A source is written only if no choice in it is empty, and then only its texts and patterns show, not
the choices they stand in.  So a variant can be exchanged for any other with the same texts and
patterns, and the mode compiles as before (`CompiledMode.compile_renested`). -/
set_option autoImplicit false
namespace ModalLexer

variable {σ : Type}

/-- Sources with the same texts and patterns, neither of which holds an empty choice. -/
structure Source.Renests (source source' : Source) : Prop where
  terms : source'.terms = source.terms
  solid : ¬ source.Hollow
  solid' : ¬ source'.Hollow

/-- A source that holds no empty choice is written as its terms one after the other. -/
theorem Source.fragment?_of_not_hollow {source : Source} (solid : ¬ source.Hollow) :
    source.fragment? = some (joinBars (source.terms.map Term.written)) := by
  obtain ⟨fragment, written⟩ : ∃ fragment, source.fragment? = some fragment :=
    Option.ne_none_iff_exists'.1 (mt source.fragment?_eq_none_iff.1 solid)
  rw [written, (source.fragment?_eq_some written).2, writtenTerms]

theorem Source.Renests.fragment?_eq {source source' : Source} (renests : source.Renests source') :
    source'.fragment? = source.fragment? := by
  rw [fragment?_of_not_hollow renests.solid, fragment?_of_not_hollow renests.solid',
    renests.terms]

structure Rule.Renests (rule rule' : Rule σ) : Prop where
  name : rule'.name = rule.name
  options : rule'.options = rule.options
  variants : List.Forall₂ (fun source source' => source = source' ∨ source.Renests source')
    rule.variants rule'.variants

theorem isEmpty_of_forall₂ {α β : Type} {r : α → β → Prop} {as : List α} {bs : List β}
    (related : List.Forall₂ r as bs) : bs.isEmpty = as.isEmpty := by
  cases related <;> rfl

namespace CompiledMode

theorem layVariant_congr {rule rule' : Rule σ} (name : rule'.name = rule.name)
    (options : rule'.options = rule.options) {source source' : Source}
    (written : source'.fragment? = source.fragment?) (next : Nat) :
    layVariant rule' next source' = layVariant rule next source := by
  simp only [layVariant, name, options, written]

theorem layVariants_renested {rule rule' : Rule σ} (name : rule'.name = rule.name)
    (options : rule'.options = rule.options) {sources sources' : List Source}
    (variants : List.Forall₂ (fun source source' => source = source' ∨ source.Renests source')
      sources sources') (next : Nat) :
    layVariants rule' next sources' = layVariants rule next sources := by
  induction variants generalizing next with
  | nil => rfl
  | @cons source source' _ _ head _ ih =>
      have written : source'.fragment? = source.fragment? := by
        rcases head with rfl | renests
        · rfl
        · exact renests.fragment?_eq
      simp only [layVariants, layVariant_congr name options written, ih]

theorem layRule_renested {rule rule' : Rule σ} (renests : rule.Renests rule')
    (resolve : String → Option Nat) (next : Nat) :
    layRule resolve next rule' = layRule resolve next rule := by
  have empty := isEmpty_of_forall₂ renests.variants
  have jumps : jump resolve rule' = jump resolve rule := by
    simp only [jump, renests.name, renests.options]
  simp only [layRule, empty, jumps, renests.name, renests.options,
    layVariants_renested renests.name renests.options renests.variants]

theorem layRules_renested {rules rules' : List (Rule σ)}
    (renests : List.Forall₂ Rule.Renests rules rules') (mode : String)
    (resolve : String → Option Nat) (seen : List String) (next : Nat) :
    layRules mode resolve seen next rules' = layRules mode resolve seen next rules := by
  induction renests generalizing seen next with
  | nil => rfl
  | cons head tail ih => simp only [layRules, head.name, layRule_renested head, ih]

/-- A source has no written pattern just if it holds an empty choice.  Otherwise it is written as its
texts, quoted, and its patterns, from left to right with bars between them.  Sources with the same
texts and patterns are written alike, and a mode does not change if they are exchanged. -/
theorem compile_renested :
    (∀ source : Source, (source.fragment? = none ↔ source.Hollow) ∧
      (¬ source.Hollow →
        source.fragment? = some (joinBars (source.terms.map Term.written)))) ∧
    (∀ source source' : Source, source.Renests source' →
      source'.fragment? = source.fragment?) ∧
    ∀ (name : String) (resolve : String → Option Nat) (rules rules' : List (Rule σ)),
      List.Forall₂ Rule.Renests rules rules' →
        compile name rules' resolve = compile name rules resolve := by
  refine ⟨fun source => ⟨source.fragment?_eq_none_iff, Source.fragment?_of_not_hollow⟩,
    fun _ _ => Source.Renests.fragment?_eq, ?_⟩
  intro name resolve rules rules' renests
  simp only [compile, isEmpty_of_forall₂ renests, layRules_renested renests]

def rightNested : Source := .oneOf [.literal "a|", .oneOf [.regex "b+", .oneOf [.literal "c"]]]

def leftNested : Source := .oneOf [.oneOf [.literal "a|", .regex "b+"], .literal "c"]

/-- Either way of nesting gives the same mode. -/
theorem leftNested_compile : ∃ mode : CompiledMode Unit,
    compile "main" [.ofSource "t" rightNested] (fun _ => none) = .ok mode ∧
      compile "main" [.ofSource "t" leftNested] (fun _ => none) = .ok mode := by
  have renests : rightNested.Renests leftNested := by
    refine ⟨rfl, ?_, ?_⟩
    · rw [← Source.fragment?_eq_none_iff]
      decide
    · rw [← Source.fragment?_eq_none_iff]
      decide
  have same := (@compile_renested Unit).2.2 "main" (fun _ => none) [.ofSource "t" rightNested]
    [.ofSource "t" leftNested] (.cons ⟨rfl, rfl, .cons (.inr renests) .nil⟩ .nil)
  obtain ⟨mode, ok, -⟩ := exists_of_any (p := fun _ => true)
    (x := compile "main" [(Rule.ofSource "t" rightNested : Rule Unit)] fun _ => none) (by decide)
  exact ⟨mode, ok, same.trans ok⟩

end CompiledMode

end ModalLexer
