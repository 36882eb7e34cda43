import ModalLexer.Proofs.Mode.Alone
import ModalLexer.Proofs.Pattern.Runs

/-! # The rule that matches whatever is left

The pattern of the catch-all rule is a run of word characters or a run of others, so it matches
wherever a character is left, and a mode in which it comes last has a variant that matches there
(`firstMatch?_ne_none`).  Rules compile with it behind them if their alternatives can be joined with
its pattern (`CompiledMode.exists_compile_catchAll`).  All that is said of the set of word characters
here is that it is one. -/
set_option autoImplicit false
namespace ModalLexer

open Reading

variable {σ : Type}

namespace Rule

theorem lexemes?_catchAllPattern : lexemes? catchAllPattern.toList = some [
    .atom (.shorthand .word false), .repetition 1 none true, .bar,
    .atom (.shorthand .word true), .repetition 1 none true] := by
  decide

def catchAllTree : Tree :=
  .choice (.repetition 1 none true (.atom (.shorthand .word false)))
    (.repetition 1 none true (.atom (.shorthand .word true)))

theorem read?_catchAllTree : Tree.read? catchAllPattern.toList = some catchAllTree := by
  decide

/-- Where characters are those of Unicode and repetitions are greedy, the pattern means what it
should. -/
theorem read?_catchAllPattern {flags : Flags} (unicode : flags.unicode = true)
    (greedy : flags.swapGreed = false) :
    Pattern.read? flags catchAllPattern.toList = some (.eitherRun Unicode.word) := by
  have ofSet (chars : CharSet) : flags.ofSet chars = .ofSet chars := by
    rw [Flags.ofSet, unicode]
    rfl
  rw [Pattern.read?, read?_catchAllTree, Option.bind_some]
  simp [Tree.meaning?, catchAllTree, Tree.piece?, Atom.meaning?, Flags.negate?, Shorthand.set,
    ofSet, unicode, greedy, Piece.pattern, Piece.asBranches, Pattern.repeated_ofSet,
    Pattern.choose_oneOrMore]

end Rule

def catchAllVariant (name : String) : Alternative σ :=
  ⟨.catchAll name, 0, .regex Rule.catchAllPattern⟩

section Variant

variable (name : String)

theorem fragment?_catchAllVariant :
    (catchAllVariant name : Alternative σ).source.fragment? = some Rule.catchAllPattern.toList :=
  rfl

theorem pattern?_catchAllVariant :
    (catchAllVariant name : Alternative σ).pattern? = some (.eitherRun Unicode.word) := by
  have text : (catchAllVariant name : Alternative σ).text? = some Rule.catchAllPattern.toList := rfl
  rw [Alternative.pattern?, text, Option.bind_some]
  exact Rule.read?_catchAllPattern rfl rfl

theorem turnsVerbose_catchAllVariant :
    (catchAllVariant name : Alternative σ).turnsVerbose = false := by
  rw [Alternative.turnsVerbose, fragment?_catchAllVariant, Option.bind_some,
    Rule.lexemes?_catchAllPattern]
  rfl

theorem keepsGroups_catchAllVariant : (catchAllVariant name : Alternative σ).KeepsGroups := by
  have read : Pattern.read? .standard Rule.catchAllPattern.toList = some (.eitherRun Unicode.word) :=
    Rule.read?_catchAllPattern rfl rfl
  simp only [Alternative.KeepsGroups, Alternative.slotWidth?, Alternative.captures?,
    fragment?_catchAllVariant, Option.bind_some, read, Rule.lexemes?_catchAllPattern,
    Option.map_some, Pattern.groups_eitherRun]
  decide

theorem report?_catchAllVariant {s : Spot} (more : s.atEnd = false) :
    (catchAllVariant name : Alternative σ).report? s ≠ none := by
  rw [Alternative.report?, pattern?_catchAllVariant, Option.bind_some, Ne, Option.map_eq_none_iff]
  exact Pattern.first?_eitherRun Unicode.word more

end Variant

theorem alternatives_append_catchAll (rules : List (Rule σ)) (name : String) :
    alternatives (rules ++ [.catchAll name]) = alternatives rules ++ [catchAllVariant name] := by
  rw [alternatives, List.flatMap_append]
  rfl

namespace CompiledMode

variable {resolve : String → Option Nat}

theorem layRule_catchAll (resolve : String → Option Nat) (next : Nat) (name : String) :
    ∃ e, layRule resolve next (.catchAll name : Rule σ) =
      .ok ⟨e, [wrap false Rule.catchAllPattern.toList], next + 1⟩ := by
  have read : Pattern.read? .standard Rule.catchAllPattern.toList =
      some (.eitherRun Unicode.word) := Rule.read?_catchAllPattern rfl rfl
  have variant : layVariant (.catchAll name : Rule σ) next (.regex Rule.catchAllPattern) =
      .ok ⟨⟨next, 1, []⟩, [wrap false Rule.catchAllPattern.toList], next + 1⟩ := by
    simp only [layVariant, Source.fragment?, read, Pattern.groups_eitherRun]
    rfl
  have variants : (Rule.catchAll name : Rule σ).variants = [.regex Rule.catchAllPattern] := rfl
  refine ⟨⟨name, [⟨next, 1, []⟩], false, true, .none, .stay, none⟩, ?_⟩
  simp only [layRule, variants, layVariants, variant, bind, Except.bind]
  rfl

/-- Behind rules that can be laid out, so can a catch-all of another name. -/
theorem layRules_catchAll {mode name : String} {seen : List String} {next : Nat}
    {rules : List (Rule σ)} {laid : Layout (List (Entry σ))}
    (ok : layRules mode resolve seen next rules = .ok laid)
    (fresh : name ∉ seen ++ rules.map Rule.name) :
    ∃ more, layRules mode resolve seen next (rules ++ [.catchAll name]) = .ok more ∧
      more.alternatives = laid.alternatives ++ [wrap false Rule.catchAllPattern.toList] ∧
      more.nextSlot = laid.nextSlot + 1 := by
  induction rules generalizing seen next laid with
  | nil =>
      obtain rfl := Except.ok.inj ok
      obtain ⟨e, first⟩ := layRule_catchAll (σ := σ) resolve next name
      have named : (Rule.catchAll name : Rule σ).name = name := rfl
      have unseen : ¬ seen.contains (Rule.catchAll name : Rule σ).name = true := by
        simpa [named] using fresh
      refine ⟨⟨[e], [wrap false Rule.catchAllPattern.toList], next + 1⟩, ?_, rfl, rfl⟩
      rw [List.nil_append, layRules, if_neg unseen, first]
      rfl
  | cons rule rest ih =>
      unfold layRules at ok
      split at ok
      · cases ok
      · next unseen =>
          obtain ⟨first, firstOk, ok⟩ := bind_eq_ok ok
          obtain ⟨last, lastOk, ok⟩ := bind_eq_ok ok
          obtain rfl := Except.ok.inj ok
          have fresh' : name ∉ (rule.name :: seen) ++ rest.map Rule.name := by
            simpa [or_left_comm] using fresh
          obtain ⟨more, moreOk, texts, slots⟩ := ih lastOk fresh'
          refine ⟨⟨first.result :: more.result, first.alternatives ++ more.alternatives,
            more.nextSlot⟩, ?_, ?_, slots⟩
          · rw [List.cons_append, layRules, if_neg unseen, firstOk]
            simp only [bind, Except.bind, moreOk]
            rfl
          · simp only [texts, List.append_assoc]

/-- Whether rules can be laid out, and joined with the pattern of a catch-all behind them.  This does
not look into the set of word characters. -/
def joinsCatchAll (mode : String) (resolve : String → Option Nat) (rules : List (Rule σ)) : Bool :=
  (layRules mode resolve [] 1 rules).toOption.any fun laid =>
    (Tree.read? (joinBars (laid.alternatives ++ [wrap false Rule.catchAllPattern.toList]))).any
      fun tree => (tree.meaning? .multiLineCrlf).isSome && (tree.groups 1).length == laid.nextSlot

theorem exists_compile_catchAll {mode name : String} {rules : List (Rule σ)}
    (joins : joinsCatchAll mode resolve rules = true) (fresh : name ∉ rules.map Rule.name) :
    ∃ c, compile mode (rules ++ [.catchAll name]) resolve = .ok c := by
  obtain ⟨laid, ok, joins⟩ := exists_of_any joins
  obtain ⟨tree, read, fits⟩ := (Option.any_eq_true _ _).1 joins
  rw [Bool.and_eq_true, beq_iff_eq] at fits
  obtain ⟨more, moreOk, texts, slots⟩ := layRules_catchAll ok fresh
  rw [← texts] at read
  obtain ⟨c, joined⟩ : ∃ c, join mode more = .ok c := exists_join read fits.1 (by omega)
  have some_rule : ¬ (rules ++ [Rule.catchAll name]).isEmpty = true := by simp
  refine ⟨c, ?_⟩
  rw [compile, if_neg some_rule, moreOk]
  exact joined

end CompiledMode

/-- Before the end of the text, some variant matches in a mode whose last rule catches all. -/
theorem firstMatch?_ne_none {rules : List (Rule σ)} {name : String}
    (last : rules.getLast? = some (.catchAll name)) {s : Spot} (more : s.atEnd = false) :
    firstMatch? rules s ≠ none := by
  intro nothing
  rw [firstMatch?, List.findSome?_eq_none_iff] at nothing
  have member : catchAllVariant name ∈ alternatives rules :=
    List.mem_flatMap.2 ⟨.catchAll name, List.mem_of_getLast? last, List.mem_cons_self⟩
  exact report?_catchAllVariant name more (nothing _ member)

end ModalLexer
