import ModalLexer.Proofs.Mode.Faults
import ModalLexer.Proofs.Scan.Accounted
import ModalLexer.Proofs.Scan.ModeOrder

/-! # Rules alone and rules in one mode

A lexer can be built of rules alone, or of one mode called `main` that has these rules.  The modes that
the rules may name differ, but compiling asks only for those that some rule does name
(`CompiledMode.compile_congr`), and scanning goes by the compiled modes (`Scanner.performs_congr`).
If no rule leads to `main`, then the two lexers fail alike or do the same, except that they do not own
the same names (`Lexer.ofRules_agrees`). -/
set_option autoImplicit false
namespace ModalLexer

variable {σ : Type}

namespace CompiledMode

variable {resolve resolve' : String → Option Nat} {rule : Rule σ} {rules : List (Rule σ)}

/-! ## Compiling asks for the modes that the rules name -/

/-- Two numberings of modes agree on the mode that a rule leads to, if it leads to one. -/
def AgreeOn (resolve resolve' : String → Option Nat) (rule : Rule σ) : Prop :=
  ∀ target, rule.options.transition.target? = some target → resolve' target = resolve target

theorem jump_congr (agree : AgreeOn resolve resolve' rule) :
    jump resolve' rule = jump resolve rule := by
  unfold jump
  unfold AgreeOn at agree
  cases leads : rule.options.transition with
  | none => rfl
  | pop => rfl
  | switchTo target =>
      rw [leads] at agree
      simp only [agree target rfl]
  | push target =>
      rw [leads] at agree
      simp only [agree target rfl]

theorem layRule_congr (agree : AgreeOn resolve resolve' rule) (next : Nat) :
    layRule resolve' next rule = layRule resolve next rule := by
  simp only [layRule, jump_congr agree]

theorem layRules_congr (agree : ∀ rule ∈ rules, AgreeOn resolve resolve' rule) (mode : String)
    (seen : List String) (next : Nat) :
    layRules mode resolve' seen next rules = layRules mode resolve seen next rules := by
  induction rules generalizing seen next with
  | nil => rfl
  | cons rule rest ih =>
      have here := agree rule List.mem_cons_self
      have later := fun seen next =>
        ih (fun other member => agree other (List.mem_cons_of_mem rule member)) seen next
      simp only [layRules, layRule_congr here, later]

theorem compile_congr (agree : ∀ rule ∈ rules, AgreeOn resolve resolve' rule) (mode : String) :
    compile mode rules resolve' = compile mode rules resolve := by
  rw [compile, compile, layRules_congr agree]

end CompiledMode

/-! ## Scanning goes by the compiled modes -/

namespace Scanner

variable {l l' : Lexer σ}

theorem firing?_congr (same : l'.modes = l.modes) (s : Scanner) : s.firing? l' = s.firing? l := by
  rw [firing?, firing?, same]

theorem turn_congr (same : l'.modes = l.modes) (s : Scanner) : s.turn l' = s.turn l := by
  rw [turn, turn, firing?_congr same]

theorem nextWithin_congr (same : l'.modes = l.modes) (fuel : Nat) (s : Scanner) (state : σ) :
    nextWithin l' fuel s state = nextWithin l fuel s state := by
  induction fuel generalizing s state with
  | zero => rfl
  | succ fuel ih => simp only [nextWithin, turn_congr same, ih]

theorem next_congr (same : l'.modes = l.modes) (s : Scanner) (state : σ) :
    s.next l' state = s.next l state :=
  nextWithin_congr same (s.measure + 1) s state

theorem perform_congr (same : l'.modes = l.modes) (s : Scanner) (state : σ)
    (operation : Operation) : s.perform l' state operation = s.perform l state operation := by
  cases operation with
  | scan text => rfl
  | request request =>
      cases request with
      | next => simp only [perform, answer, next_congr same]
      | reset text checkpoint => rfl

theorem view_congr (same : l'.modes = l.modes) (s : Scanner) : s.view l' = s.view l := by
  simp only [view, Lexer.modeName, same]

theorem performs_congr (same : l'.modes = l.modes) (s : Scanner) (state : σ)
    (operations : List Operation) :
    performs l' s state operations = performs l s state operations := by
  induction operations generalizing s state with
  | nil => rfl
  | cons operation rest ih => simp only [performs, perform_congr same, view_congr same, ih]

end Scanner

namespace Lexer

variable {rules : List (Rule σ)} {l : Lexer σ}

/-! ## The two lexers of some rules -/

def keptNames (rules : List (Rule σ)) : List String :=
  (rules.filter fun rule => !rule.options.discard).map Rule.name

/-- No rule leads to the mode that rules alone are compiled to. -/
def LeavesMain (rules : List (Rule σ)) : Prop :=
  ∀ rule ∈ rules, rule.options.transition.target? ≠ some main

instance (rules : List (Rule σ)) : Decidable (LeavesMain rules) :=
  inferInstanceAs (Decidable (∀ rule ∈ rules, rule.options.transition.target? ≠ some main))

theorem agreeOn_modeNumber? (apart : LeavesMain rules) : ∀ rule ∈ rules,
    CompiledMode.AgreeOn (fun _ => none) (modeNumber? [(⟨main, rules⟩ : Mode σ)]) rule := by
  intro rule member target leads
  have other : target ∉ [(⟨main, rules⟩ : Mode σ)].map Mode.name := by
    rw [List.map_singleton, List.mem_singleton]
    rintro rfl
    exact apart rule member leads
  exact (knows_modeNumber? _ target).2 other

/-- The lexer of one mode is that of its rules, up to the names it owns. -/
theorem ofModes_main (apart : LeavesMain rules) : ofModes [⟨main, rules⟩] =
    (ofRules rules).map fun l => { l with owned := keptNames rules } := by
  have compiled := CompiledMode.compile_congr (agreeOn_modeNumber? apart) main
  simp only [ofModes, ofRules, compileEach, compiled, List.isEmpty_cons, Bool.false_eq_true,
    if_false, repeatedName?, List.contains_nil]
  cases CompiledMode.compile main rules fun _ => none with
  | error e => rfl
  | ok mode =>
      simp [bind, Except.bind, pure, Except.pure, Except.map, keptNames]

/-- A lexer of rules alone and one of a mode with these rules have the same pattern, slots and jumps,
look the same and do the same.  They differ in the names of rules that are discarded, which only the
first one owns. -/
structure Agree (rules : List (Rule σ)) (l l' : Lexer σ) : Prop where
  modes : l'.modes = l.modes
  next : ∀ s state, Scanner.next l' s state = Scanner.next l s state
  view : ∀ s, Scanner.view l' s = Scanner.view l s
  performs : ∀ s state operations,
    Scanner.performs l' s state operations = Scanner.performs l s state operations
  has_iff : ∀ name, l'.has name ≠ l.has name ↔
    ∃ rule ∈ rules, rule.name = name ∧ rule.options.discard = true
  discarded : ∀ rule ∈ rules, rule.options.discard = true →
    l.has rule.name = true ∧ l'.has rule.name = false

theorem agree_of_ok {l' : Lexer σ} (ok : ofRules rules = .ok l)
    (ok' : ofModes [⟨main, rules⟩] = .ok l') (same : l'.modes = l.modes) :
    Agree rules l l' := by
  have owned := has_of_ofRules ok
  have kept (name : String) : l'.has name = true ↔
      ∃ rule ∈ rules, rule.options.discard = false ∧ rule.name = name := by
    simpa using has_of_ofModes ok' name
  obtain ⟨mode, made, -⟩ := compile_of_ofRules ok
  obtain ⟨-, distinct⟩ := CompiledMode.compile_entries made
  have discarded (rule : Rule σ) (member : rule ∈ rules) (dropped : rule.options.discard = true) :
      l.has rule.name = true ∧ l'.has rule.name = false := by
    refine ⟨(owned rule.name).2 ⟨rule, member, rfl⟩, ?_⟩
    rw [Bool.eq_false_iff]
    intro has
    obtain ⟨other, inside, keeps, named⟩ := (kept rule.name).1 has
    -- Rules of one mode have different names, so no other rule owns the name.
    obtain rfl := List.inj_on_of_nodup_map distinct inside member named
    rw [dropped] at keeps
    cases keeps
  refine ⟨same, Scanner.next_congr same, Scanner.view_congr same, Scanner.performs_congr same, ?_,
    discarded⟩
  intro name
  constructor
  · intro differ
    have has : l.has name = true := by
      by_contra lacks
      have lacks' : ¬ l'.has name = true := by
        intro has'
        obtain ⟨rule, member, -, named⟩ := (kept name).1 has'
        exact lacks ((owned name).2 ⟨rule, member, named⟩)
      simp only [Bool.not_eq_true] at lacks lacks'
      exact differ (lacks'.trans lacks.symm)
    obtain ⟨rule, member, rfl⟩ := (owned name).1 has
    refine ⟨rule, member, rfl, ?_⟩
    by_contra keeps
    have has' := (kept rule.name).2 ⟨rule, member, by simpa using keeps, rfl⟩
    exact differ (has'.trans has.symm)
  · rintro ⟨rule, member, rfl, dropped⟩
    obtain ⟨has, lacks⟩ := discarded rule member dropped
    rw [has, lacks]
    exact Bool.false_ne_true

/-- Let no rule lead to a mode called `main`.  The rules alone and one mode of that name with these
rules either fail to compile with the same error, or compile to lexers that agree: whatever is done
with them and their scanners, in whatever state, the results are the same. -/
theorem ofRules_agrees {rules : List (Rule σ)} (apart : LeavesMain rules) :
    (∃ e, ofRules rules = .error e ∧ ofModes [⟨main, rules⟩] = .error e) ∨
    ∃ l l', ofRules rules = .ok l ∧ ofModes [⟨main, rules⟩] = .ok l' ∧ Agree rules l l' := by
  have oneMode := ofModes_main apart
  cases ok : ofRules rules with
  | error e =>
      rw [ok] at oneMode
      exact .inl ⟨e, rfl, oneMode⟩
  | ok l =>
      rw [ok] at oneMode
      exact .inr ⟨l, _, rfl, oneMode, agree_of_ok ok oneMode rfl⟩

def spacedRules : List (Rule Unit) := [.regex "word" "[a-z]+", (Rule.literal "blank" " ").discard]

/-- Both lexers compile, and only one of them owns the blanks. -/
theorem spacedRules_agree : ∃ l l', ofRules spacedRules = .ok l ∧
    ofModes [⟨main, spacedRules⟩] = .ok l' ∧ Agree spacedRules l l' ∧
      l.has "blank" = true ∧ l'.has "blank" = false ∧
        l.has "word" = true ∧ l'.has "word" = true := by
  have apart : LeavesMain spacedRules := by decide
  rcases ofRules_agrees apart with ⟨e, failed, -⟩ | ⟨l, l', ok, ok', agree⟩
  · obtain ⟨l, ok, -⟩ := exists_of_any (x := ofRules spacedRules) (p := fun _ => true) (by decide)
    rw [ok] at failed
    cases failed
  · obtain ⟨has, lacks⟩ := agree.discarded _ (List.mem_cons_of_mem _ (List.mem_singleton.2 rfl)) rfl
    exact ⟨l, l', ok, ok', agree, has, lacks, (has_of_ofRules ok "word").2 (by decide),
      (has_of_ofModes ok' "word").2 (by decide)⟩

/-- A rule that leads to `main` finds a mode only in the second lexer. -/
example : (ofModes [⟨main, [(Rule.literal "again" "a" : Rule Unit).push main]⟩]).isOk = true ∧
    ofRules [(Rule.literal "again" "a" : Rule Unit).push main] =
      .error (.unknownMode "again" main) :=
  ⟨by decide, rfl⟩

end Lexer

end ModalLexer
