import ModalLexer.Proofs.Mode.Entries
import ModalLexer.Proofs.Mode.FirstMatch

/-! # Rules behind all others

Further rules behind all rules of a mode change nothing about those: what the mode found it finds
with them, by the same entry and with the same groups (`CompiledMode.extends_of_compile`).  Slots
are laid out from the front, and of two alternatives the first is tried first. -/
set_option autoImplicit false
namespace ModalLexer

variable {σ : Type}

/-- What is matched for a variant depends on the variant alone. -/
theorem Row.branch_eq {r r' : Row σ} (same : r.alternative = r'.alternative) :
    r.branch = r'.branch := by
  have text : r.fragment.text = r'.fragment.text := by
    have source := r.source_eq
    rw [same, r'.source_eq] at source
    exact (Option.some.inj source).symm
  rw [branch, branch, same, r.fragment.ext_of_text text]

theorem map_branch_eq {rows rows' : List (Row σ)}
    (same : rows.map Row.alternative = rows'.map Row.alternative) :
    rows.map Row.branch = rows'.map Row.branch := by
  induction rows generalizing rows' with
  | nil =>
      rw [List.map_nil, eq_comm, List.map_eq_nil_iff] at same
      rw [same]
  | cons r rows ih =>
      cases rows' with
      | nil => cases same
      | cons r' rows' =>
          obtain ⟨head, tail⟩ := List.cons.inj same
          rw [List.map_cons, List.map_cons, Row.branch_eq head, ih tail]

/-- More branches behind do not change what is matched. -/
theorem first?_wrapped_append {flags : Flags} {bs : List Branch} {s : Spot} {path : Path}
    (nonempty : bs ≠ []) (found : (Pattern.foldChoice (wrapped flags 1 bs)).first? s = some path)
    (more : List Branch) :
    (Pattern.foldChoice (wrapped flags 1 (bs ++ more))).first? s = some path := by
  have nonempty' : bs ++ more ≠ [] := List.append_ne_nil_of_left_ne_nil nonempty more
  rw [Pattern.first?, Pattern.firstFrom?_foldChoice (wrapped_ne_nil flags 1 nonempty)] at found
  rw [Pattern.first?, Pattern.firstFrom?_foldChoice (wrapped_ne_nil flags 1 nonempty'),
    wrapped_append, List.findSome?_append, found]
  rfl

namespace CompiledMode

variable {resolve resolve' : String → Option Nat}

theorem layRule_unique (agree : Agree resolve resolve') {next : Nat} {rule : Rule σ}
    {laid laid' : Layout (Entry σ)} (ok : layRule resolve next rule = .ok laid)
    (ok' : layRule resolve' next rule = .ok laid') : laid = laid' := by
  unfold layRule at ok ok'
  split at ok
  · cases ok
  · next some_variant =>
      rw [if_neg some_variant] at ok'
      obtain ⟨variants, variantsOk, ok⟩ := bind_eq_ok ok
      obtain ⟨j, jumps, ok⟩ := bind_eq_ok ok
      obtain ⟨variants', variantsOk', ok'⟩ := bind_eq_ok ok'
      obtain ⟨j', jumps', ok'⟩ := bind_eq_ok ok'
      obtain rfl := Except.ok.inj (variantsOk.symm.trans variantsOk')
      obtain rfl := (resolved_of_jump jumps).unique agree (resolved_of_jump jumps')
      exact Except.ok.inj (ok.symm.trans ok')

theorem layRules_append (agree : Agree resolve resolve') {mode mode' : String}
    {seen : List String} {next : Nat} {rules more : List (Rule σ)}
    {laid laid' : Layout (List (Entry σ))} (ok : layRules mode resolve seen next rules = .ok laid)
    (ok' : layRules mode' resolve' seen next (rules ++ more) = .ok laid') :
    ∃ behind, laid'.result = laid.result ++ behind := by
  induction rules generalizing seen next laid laid' with
  | nil =>
      obtain rfl := Except.ok.inj ok
      exact ⟨laid'.result, rfl⟩
  | cons rule rest ih =>
      rw [List.cons_append] at ok'
      unfold layRules at ok ok'
      split at ok
      · cases ok
      · next fresh =>
          rw [if_neg fresh] at ok'
          obtain ⟨first, firstOk, ok⟩ := bind_eq_ok ok
          obtain ⟨others, othersOk, ok⟩ := bind_eq_ok ok
          obtain ⟨first', firstOk', ok'⟩ := bind_eq_ok ok'
          obtain ⟨others', othersOk', ok'⟩ := bind_eq_ok ok'
          obtain rfl := Except.ok.inj ok
          obtain rfl := Except.ok.inj ok'
          obtain rfl := layRule_unique agree firstOk firstOk'
          obtain ⟨behind, same⟩ := ih othersOk othersOk'
          exact ⟨behind, congrArg (first.result :: ·) same⟩

theorem dispatch?_append {p : Path} {entries : List (Entry σ)} {d : Dispatch σ}
    (found : dispatch? p entries = some d) (more : List (Entry σ)) :
    dispatch? p (entries ++ more) = some d := by
  have apart : targets (entries ++ more) = targets entries ++ targets more := List.flatMap_append
  rw [dispatch?_eq] at found ⊢
  rw [apart, List.findSome?_append, found]
  rfl

/-- A mode that matches as another does where that one matches, by the same entries. -/
structure Extends (c c' : CompiledMode σ) : Prop where
  first : ∀ s path, c.pattern.first? s = some path → c'.pattern.first? s = some path
  entries : ∃ more, c'.entries = c.entries ++ more

theorem extends_of_compile (agree : Agree resolve resolve') {name name' : String}
    {rules more : List (Rule σ)} {c c' : CompiledMode σ}
    (ok : compile name rules resolve = .ok c) (ok' : compile name' (rules ++ more) resolve' = .ok c')
    (plain : ∀ a ∈ alternatives (rules ++ more), a.turnsVerbose = false) : c.Extends c' := by
  have apart : alternatives (rules ++ more) = alternatives rules ++ alternatives more :=
    List.flatMap_append
  obtain ⟨rows, compiled⟩ := compile_rows ok
  obtain ⟨rows', compiled'⟩ := compile_rows ok'
  have separate : Separate c rules rows := by
    apply compiled.separate_of_plain
    intro a member
    apply plain
    rw [apart]
    exact List.mem_append_left _ member
  have separate' := compiled'.separate_of_plain plain
  constructor
  · intro s path found
    -- The rows of the longer mode begin with those of the shorter one.
    have order := compiled'.alternatives_eq
    rw [apart, ← compiled.alternatives_eq, List.map_eq_append_iff] at order
    obtain ⟨front, back, rfl, same, -⟩ := order
    have nonempty : rows.map Row.branch ≠ [] := by
      intro empty
      exact compiled.nonempty (List.map_eq_nil_iff.1 empty)
    rw [separate.pattern_eq] at found
    rw [separate'.pattern_eq, List.map_append, map_branch_eq same]
    exact first?_wrapped_append nonempty found _
  · obtain ⟨laid, laidOk, entries, -⟩ := exists_layout ok
    obtain ⟨laid', laidOk', entries', -⟩ := exists_layout ok'
    rw [entries, entries']
    exact layRules_append agree laidOk laidOk'

end CompiledMode

structure Mode.Appends (m m' : Mode σ) : Prop where
  name : m'.name = m.name
  rules : ∃ more, m'.rules = m.rules ++ more

namespace Lexer

variable {modes modes' : List (Mode σ)} {l l' : Lexer σ}

theorem modeNumber?_appended (appended : List.Forall₂ Mode.Appends modes modes') (name : String) :
    modeNumber? modes' name = modeNumber? modes name := by
  induction appended with
  | nil => rfl
  | cons head tail ih =>
      simp only [modeNumber?] at ih
      rw [modeNumber?, modeNumber?, List.findIdx?_cons, List.findIdx?_cons, head.name, ih]

theorem agree_of_appended (appended : List.Forall₂ Mode.Appends modes modes')
    {resolve resolve' : String → Option Nat}
    (resolves : ∀ name i, resolve name = some i → modeNumber? modes name = some i)
    (resolves' : ∀ name i, resolve' name = some i → modeNumber? modes' name = some i) :
    CompiledMode.Agree resolve resolve' := by
  intro name i j found found'
  have number := resolves name i found
  have number' := resolves' name j found'
  rw [modeNumber?_appended appended, number] at number'
  exact Option.some.inj number'

/-- Each mode of a lexer is extended by the one with further rules. -/
theorem CompiledFrom.exists_extends (compiled : l.CompiledFrom modes)
    (compiled' : l'.CompiledFrom modes') (appended : List.Forall₂ Mode.Appends modes modes')
    (plain : ∀ m ∈ modes', ∀ a ∈ alternatives m.rules, a.turnsVerbose = false) {i : Nat}
    {c : CompiledMode σ} (found : l.modes[i]? = some c) :
    ∃ c', l'.modes[i]? = some c' ∧ c.Extends c' := by
  obtain ⟨m, given, resolve, made, resolves⟩ :=
    exists_getElem?_of_forall₂ compiled.resolves.flip found
  obtain ⟨m', given', name, more, rules⟩ := exists_getElem?_of_forall₂ appended given
  obtain ⟨c', found', resolve', made', resolves'⟩ :=
    exists_getElem?_of_forall₂ compiled'.resolves given'
  have plain' := plain m' (List.mem_of_getElem? given')
  rw [rules] at made' plain'
  have agree := agree_of_appended appended resolves resolves'
  exact ⟨c', found', CompiledMode.extends_of_compile agree made made' plain'⟩

end Lexer

end ModalLexer
