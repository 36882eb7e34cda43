import ModalLexer.Proofs.Mode.Numbers

/-! # Compiling does not look at value functions

Give all rules other value functions, be it with another state (`Rule.revalue`).  What compiled still
compiles, to the same patterns, slots and jumps with the other functions in their places, and what
failed fails in the same way (`Lexer.ofModes_revalue`, `Lexer.ofRules_revalue`). -/
set_option autoImplicit false
namespace ModalLexer

variable {σ τ : Type}

/-- What comes in the place of the value function of a rule, by the name of the rule. -/
abbrev Revaluing (σ τ : Type) := String → Option (ValueFn σ) → Option (ValueFn τ)

variable (g : Revaluing σ τ)

def Rule.revalue (rule : Rule σ) : Rule τ where
  name := rule.name
  variants := rule.variants
  options :=
    { discard := rule.options.discard
      error := rule.options.error
      wordBound := rule.options.wordBound
      lineBreaks := rule.options.lineBreaks
      transition := rule.options.transition
      value := g rule.name rule.options.value }

def Mode.revalue (m : Mode σ) : Mode τ := ⟨m.name, m.rules.map (Rule.revalue g)⟩

def Entry.revalue (e : Entry σ) : Entry τ where
  kind := e.kind
  slots := e.slots
  discard := e.discard
  error := e.error
  lineBreaks := e.lineBreaks
  jump := e.jump
  value := g e.kind e.value

def CompiledMode.revalue (c : CompiledMode σ) : CompiledMode τ :=
  ⟨c.name, c.written, c.pattern, c.entries.map (Entry.revalue g)⟩

def Lexer.revalue (l : Lexer σ) : Lexer τ := ⟨l.modes.map (CompiledMode.revalue g), l.owned⟩

def Layout.map {α β : Type} (f : α → β) (laid : Layout α) : Layout β :=
  ⟨f laid.result, laid.alternatives, laid.nextSlot⟩

@[simp] theorem Rule.name_revalue (rule : Rule σ) : (rule.revalue g).name = rule.name := rfl

theorem Mode.name_revalue (m : Mode σ) : (m.revalue g).name = m.name := rfl

namespace CompiledMode

variable (resolve : String → Option Nat) (rule : Rule σ) (rules : List (Rule σ))

theorem layVariants_revalue (next : Nat) (sources : List Source) :
    layVariants (rule.revalue g) next sources = layVariants rule next sources := by
  have one (next : Nat) (source : Source) :
      layVariant (rule.revalue g) next source = layVariant rule next source := rfl
  induction sources generalizing next with
  | nil => rfl
  | cons source rest ih => simp only [layVariants, one, ih]

theorem layRule_revalue (next : Nat) : layRule resolve next (rule.revalue g) =
    (layRule resolve next rule).map (Layout.map (Entry.revalue g)) := by
  have leads : jump resolve (rule.revalue g) = jump resolve rule := rfl
  by_cases bare : rule.variants.isEmpty
  · have bare' : (rule.revalue g).variants.isEmpty := bare
    rw [layRule, layRule, if_pos bare, if_pos bare']
    rfl
  · have bare' : ¬ (rule.revalue g).variants.isEmpty := bare
    have same : (rule.revalue g).variants = rule.variants := rfl
    rw [layRule, layRule, if_neg bare, if_neg bare', same, layVariants_revalue, leads]
    cases layVariants rule next rule.variants with
    | error e => rfl
    | ok laid => cases jump resolve rule <;> rfl

theorem layRules_revalue (mode : String) (seen : List String) (next : Nat) :
    layRules mode resolve seen next (rules.map (Rule.revalue g)) =
      (layRules mode resolve seen next rules).map (Layout.map (List.map (Entry.revalue g))) := by
  induction rules generalizing seen next with
  | nil => rfl
  | cons rule rest ih =>
      rw [List.map_cons, layRules, layRules, Rule.name_revalue, layRule_revalue]
      by_cases used : seen.contains rule.name
      · rw [if_pos used, if_pos used]
        rfl
      · rw [if_neg used, if_neg used]
        cases layRule resolve next rule with
        | error e => rfl
        | ok first =>
            have further := ih (rule.name :: seen) first.nextSlot
            simp only [Except.map, bind, Except.bind, Layout.map] at further ⊢
            rw [further]
            cases layRules mode resolve (rule.name :: seen) first.nextSlot rest <;> rfl

theorem join_revalue (mode : String) (laid : Layout (List (Entry σ))) :
    join mode (laid.map (List.map (Entry.revalue g))) =
      (join mode laid).map (CompiledMode.revalue g) := by
  simp only [join, Layout.map]
  cases Pattern.read? .multiLineCrlf (joinBars laid.alternatives) with
  | none => rfl
  | some pattern =>
      by_cases same : pattern.groups.length + 1 = laid.nextSlot
      · simp only [same, if_true]
        rfl
      · simp only [same, if_false]
        rfl

theorem compile_revalue (mode : String) : compile mode (rules.map (Rule.revalue g)) resolve =
    (compile mode rules resolve).map (CompiledMode.revalue g) := by
  by_cases empty : rules.isEmpty
  · have empty' : (rules.map (Rule.revalue g)).isEmpty := by simpa using empty
    rw [compile, compile, if_pos empty, if_pos empty']
    rfl
  · have empty' : ¬ (rules.map (Rule.revalue g)).isEmpty := by simpa using empty
    rw [compile, compile, if_neg empty, if_neg empty', layRules_revalue]
    cases layRules mode resolve [] 1 rules with
    | error e => rfl
    | ok laid => exact join_revalue g mode laid

end CompiledMode

namespace Lexer

variable (modes : List (Mode σ)) (rules : List (Rule σ))

theorem compileEach_revalue (resolve : String → Option Nat) :
    compileEach resolve (modes.map (Mode.revalue g)) =
      (compileEach resolve modes).map (List.map (CompiledMode.revalue g)) := by
  induction modes with
  | nil => rfl
  | cons m rest ih =>
      have first := CompiledMode.compile_revalue g resolve m.rules m.name
      simp only [List.map_cons, compileEach, Mode.revalue, first, ih]
      cases CompiledMode.compile m.name m.rules resolve with
      | error e => rfl
      | ok c => cases compileEach resolve rest <;> rfl

/-- The names of the rules that are not discarded stay the same. -/
theorem keptNames_revalue : (((modes.map (Mode.revalue g)).flatMap (·.rules)).filter
      fun rule => !rule.options.discard).map (·.name) =
    ((modes.flatMap (·.rules)).filter fun rule => !rule.options.discard).map (·.name) := by
  have rules : (modes.map (Mode.revalue g)).flatMap (·.rules) =
      (modes.flatMap (·.rules)).map (Rule.revalue g) := by
    rw [List.flatMap_map, List.map_flatMap]
    rfl
  rw [rules, List.filter_map, List.map_map]
  rfl

theorem ofModes_revalue :
    ofModes (modes.map (Mode.revalue g)) = (ofModes modes).map (Lexer.revalue g) := by
  by_cases empty : modes.isEmpty
  · have empty' : (modes.map (Mode.revalue g)).isEmpty := by simpa using empty
    rw [ofModes, ofModes, if_pos empty, if_pos empty']
    rfl
  · have empty' : ¬ (modes.map (Mode.revalue g)).isEmpty := by simpa using empty
    rw [ofModes, ofModes, if_neg empty, if_neg empty',
      repeatedName?_map (Mode.name_revalue g)]
    cases repeatedName? [] modes with
    | some name => rfl
    | none =>
        simp only [modeNumber?_map (Mode.name_revalue g), compileEach_revalue, keptNames_revalue]
        cases compileEach (modeNumber? modes) modes <;> rfl

theorem ofRules_revalue :
    ofRules (rules.map (Rule.revalue g)) = (ofRules rules).map (Lexer.revalue g) := by
  have names : (rules.map (Rule.revalue g)).map (·.name) = rules.map (·.name) := by
    rw [List.map_map]
    rfl
  simp only [ofRules, CompiledMode.compile_revalue, names]
  cases CompiledMode.compile main rules fun _ => none <;> rfl

end Lexer

end ModalLexer
