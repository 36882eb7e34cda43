import ModalLexer.Rule.Source

/-! # The terms of a source

A source that has a written pattern is written as its texts and patterns one after the other, with
bars between them, in whatever way its choices are nested (`Source.fragment?_eq_some`).  This
is so because none of the choices is empty: joining parts that were joined before is joining
all of them, if there are no parts without anything (`joinBars_flatten`). -/
set_option autoImplicit false
namespace ModalLexer

theorem joinBars_cons {p : List Char} {ps : List (List Char)} (more : ps ≠ []) :
    joinBars (p :: ps) = p ++ '|' :: joinBars ps := by
  obtain ⟨q, qs, rfl⟩ := List.exists_cons_of_ne_nil more
  rfl

theorem joinBars_append {ps qs : List (List Char)} (some_ps : ps ≠ []) (some_qs : qs ≠ []) :
    joinBars (ps ++ qs) = joinBars ps ++ '|' :: joinBars qs := by
  induction ps with
  | nil => exact absurd rfl some_ps
  | cons p ps ih =>
      by_cases more : ps = []
      · subst more
        exact joinBars_cons some_qs
      · rw [List.cons_append, joinBars_cons (List.append_ne_nil_of_left_ne_nil more qs), ih more,
          joinBars_cons more, List.append_assoc, List.cons_append]

theorem joinBars_flatten {pss : List (List (List Char))} (each : ∀ ps ∈ pss, ps ≠ []) :
    joinBars (pss.map joinBars) = joinBars pss.flatten := by
  induction pss with
  | nil => rfl
  | cons ps pss ih =>
      rw [List.forall_mem_cons] at each
      by_cases more : pss = []
      · subst more
        rw [List.flatten_cons, List.flatten_nil, List.append_nil]
        rfl
      · have rest : pss.flatten ≠ [] := by
          obtain ⟨qs, qss, rfl⟩ := List.exists_cons_of_ne_nil more
          rw [List.flatten_cons]
          exact List.append_ne_nil_of_left_ne_nil (each.2 qs List.mem_cons_self) _
        have mapped : pss.map joinBars ≠ [] := fun empty => more (List.map_eq_nil_iff.1 empty)
        rw [List.map_cons, joinBars_cons mapped, ih each.2, List.flatten_cons,
          joinBars_append each.1 rest]

/-- What a source is built of: a text meant literally, or a pattern. -/
inductive Term
  | literal (text : String)
  | regex (pattern : String)
deriving DecidableEq

def Term.written : Term → List Char
  | .literal text => quote text.toList
  | .regex pattern => pattern.toList

namespace Source

mutual

def terms : Source → List Term
  | .literal text => [.literal text]
  | .regex pattern => [.regex pattern]
  | .oneOf alternatives => termsOf alternatives

def termsOf : List Source → List Term
  | [] => []
  | first :: rest => first.terms ++ termsOf rest

end

def writtenTerms (source : Source) : List (List Char) := source.terms.map Term.written

theorem map_written_termsOf (sources : List Source) :
    (termsOf sources).map Term.written = (sources.map writtenTerms).flatten := by
  induction sources with
  | nil => rfl
  | cons first rest ih =>
      rw [termsOf, List.map_append, ih, List.map_cons, List.flatten_cons, writtenTerms]

mutual

/-- However its choices are nested, a source is written as its terms one after the other. -/
theorem fragment?_eq_some (source : Source) {fragment : List Char}
    (written : source.fragment? = some fragment) :
    source.writtenTerms ≠ [] ∧ fragment = joinBars source.writtenTerms := by
  match source with
  | .literal text =>
      obtain rfl := Option.some.inj written
      exact ⟨List.cons_ne_nil _ _, rfl⟩
  | .regex pattern =>
      obtain rfl := Option.some.inj written
      exact ⟨List.cons_ne_nil _ _, rfl⟩
  | .oneOf [] => cases written
  | .oneOf (first :: rest) =>
      obtain ⟨fragments, each, rfl⟩ := Option.map_eq_some_iff.1 written
      obtain ⟨nonempty, rfl⟩ := fragments?_eq_some (first :: rest) each
      have parts : ∀ ps ∈ (first :: rest).map writtenTerms, ps ≠ [] :=
        List.forall_mem_map.2 nonempty
      have whole : writtenTerms (.oneOf (first :: rest)) =
          ((first :: rest).map writtenTerms).flatten := map_written_termsOf (first :: rest)
      rw [whole, ← joinBars_flatten parts, List.map_map]
      refine ⟨?_, rfl⟩
      rw [List.map_cons, List.flatten_cons]
      exact List.append_ne_nil_of_left_ne_nil (nonempty first List.mem_cons_self) _

theorem fragments?_eq_some (sources : List Source) {fragments : List (List Char)}
    (written : fragments? sources = some fragments) :
    (∀ source ∈ sources, source.writtenTerms ≠ []) ∧
      fragments = sources.map (joinBars ∘ writtenTerms) := by
  match sources with
  | [] =>
      obtain rfl := Option.some.inj written
      exact ⟨nofun, rfl⟩
  | first :: rest =>
      rw [fragments?] at written
      split at written
      · next fragment more firstWritten restWritten =>
          obtain rfl := Option.some.inj written
          obtain ⟨some_term, rfl⟩ := fragment?_eq_some first firstWritten
          obtain ⟨nonempty, rfl⟩ := fragments?_eq_some rest restWritten
          exact ⟨List.forall_mem_cons.2 ⟨some_term, nonempty⟩, rfl⟩
      · cases written

end

end Source

end ModalLexer
