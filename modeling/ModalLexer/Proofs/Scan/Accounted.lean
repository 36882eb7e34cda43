import ModalLexer.Proofs.Mode.FirstMatch
import ModalLexer.Proofs.Scan.Calls

/-! # Tokens and the rules they come of

Every token comes of a rule of the mode that was active when its match was found, and says what that
rule says (`Scanner.next_accounted`).  Its kind is one of the names that the lexer owns: those of the
rules that some mode does not discard, or of all rules if there are no modes. -/
set_option autoImplicit false
namespace ModalLexer

variable {σ : Type}

theorem Rule.variant_lt_of_alternatives {rule : Rule σ} {n : Nat} {sources : List Source}
    {a : Alternative σ} (member : a ∈ rule.alternatives n sources) :
    a.variant < n + sources.length := by
  induction sources generalizing n with
  | nil => cases member
  | cons source rest ih =>
      rw [List.length_cons]
      rcases List.mem_cons.1 member with rfl | later
      · dsimp only
        omega
      · have below := ih later
        omega

theorem Alternative.variant_lt {rules : List (Rule σ)} {a : Alternative σ}
    (member : a ∈ alternatives rules) : a.variant < a.rule.variants.length := by
  obtain ⟨rule, -, ofRule⟩ := List.mem_flatMap.1 member
  rw [((rule.keys_alternatives 0 rule.variants).2 a ofRule).1]
  have below := Rule.variant_lt_of_alternatives ofRule
  omega

theorem CompiledMode.exists_alternative {resolve : String → Option Nat} {name : String}
    {rules : List (Rule σ)} {mode : CompiledMode σ} (ok : compile name rules resolve = .ok mode)
    {p : Path} {d : Dispatch σ} (found : dispatch? p mode.entries = some d) :
    ∃ a ∈ alternatives rules, d.entry.Follows resolve a.rule ∧ d.variant = a.variant := by
  obtain ⟨rows, compiled⟩ := compile_rows ok
  rw [dispatch?_eq, compiled.targets_eq] at found
  obtain ⟨target, inSlots, hit⟩ := List.exists_of_findSome?_eq_some found
  obtain ⟨extent, -, rfl⟩ := Option.map_eq_some_iff.1 hit
  obtain ⟨⟨r, inRows, entry, variant⟩, -⟩ := mem_slotted inSlots
  refine ⟨r.alternative, ?_, ?_, variant⟩
  · rw [← compiled.alternatives_eq]
    exact List.mem_map_of_mem inRows
  · rw [entry]
    exact compiled.follows ok inRows

namespace Lexer

variable {modes : List (Mode σ)} {rules : List (Rule σ)} {l : Lexer σ}

theorem has_of_ofModes (ok : ofModes modes = .ok l) (name : String) : l.has name = true ↔
    ∃ m ∈ modes, ∃ rule ∈ m.rules, rule.options.discard = false ∧ rule.name = name := by
  simp only [ofModes] at ok
  split at ok
  · cases ok
  · split at ok
    · cases ok
    · obtain ⟨compiled, -, ok⟩ := bind_eq_ok ok
      obtain rfl := Except.ok.inj ok
      rw [has, List.contains_iff_mem, List.mem_map]
      constructor
      · rintro ⟨rule, member, named⟩
        obtain ⟨inModes, kept⟩ := List.mem_filter.1 member
        obtain ⟨m, given, inRules⟩ := List.mem_flatMap.1 inModes
        exact ⟨m, given, rule, inRules, by simpa using kept, named⟩
      · rintro ⟨m, given, rule, inRules, kept, named⟩
        have inModes := List.mem_flatMap.2 ⟨m, given, inRules⟩
        exact ⟨rule, List.mem_filter.2 ⟨inModes, by simp [kept]⟩, named⟩

theorem has_of_ofRules (ok : ofRules rules = .ok l) (name : String) : l.has name = true ↔
    ∃ rule ∈ rules, rule.name = name := by
  obtain ⟨mode, -, ok⟩ := bind_eq_ok ok
  obtain rfl := Except.ok.inj ok
  simp [has]

/-- A rule that is not discarded is owned, be there modes or not. -/
theorem CompiledFrom.has_of_kept (compiled : l.CompiledFrom modes) {m : Mode σ}
    (inModes : m ∈ modes) {rule : Rule σ} (inRules : rule ∈ m.rules)
    (kept : rule.options.discard = false) : l.has rule.name = true := by
  cases compiled with
  | modes ok => exact (has_of_ofModes ok _).2 ⟨m, inModes, rule, inRules, kept, rfl⟩
  | rules ok =>
      obtain rfl := List.mem_singleton.1 inModes
      exact (has_of_ofRules ok _).2 ⟨rule, inRules, rfl⟩

end Lexer

structure Token.ComesOf (token : Token) (rule : Rule σ) : Prop where
  kept : rule.options.discard = false
  kind : token.kind = rule.name
  isError : token.isError = rule.options.error
  variant : token.variant < rule.variants.length
  value : rule.options.value = none → token.value = .text token.text

namespace Scanner

variable {modes : List (Mode σ)} {l : Lexer σ} {s t : Scanner} {f : Firing σ}

/-- A match is that of a rule which the active mode declares. -/
structure Declares (modes : List (Mode σ)) (l : Lexer σ) (s : Scanner) (f : Firing σ)
    (m : Mode σ) (a : Alternative σ) : Prop where
  active : modes[s.active]? = some m
  named : l.modeName s.active = m.name
  declared : a ∈ alternatives m.rules
  follows : ∃ resolve, f.entry.Follows resolve a.rule
  variant : f.dispatch.variant = a.variant

theorem Meets.exists_declares (meets : s.Meets l f) (compiled : l.CompiledFrom modes) :
    ∃ m a, Declares modes l s f m a := by
  obtain ⟨mode, active, finds, -⟩ := firing?_cases meets.found
  obtain ⟨m, given, resolve, made, -⟩ := exists_getElem?_of_forall₂ compiled.resolves.flip active
  obtain ⟨a, declared, follows, variant⟩ := CompiledMode.exists_alternative made finds.dispatched
  refine ⟨m, a, given, ?_, declared, ⟨resolve, follows⟩, variant⟩
  simp only [Lexer.modeName, active]
  exact CompiledMode.name_of_compile made

theorem Declares.comesOf {m : Mode σ} {a : Alternative σ} (declares : Declares modes l s f m a)
    (kept : f.entry.discard = false) (state : σ) :
    (f.token (f.value state).1).ComesOf a.rule := by
  obtain ⟨resolve, follows⟩ := declares.follows
  refine ⟨?_, follows.kind, follows.error, ?_, ?_⟩
  · rw [← follows.discard]
    exact kept
  · have below := Alternative.variant_lt declares.declared
    rw [← declares.variant] at below
    exact below
  · intro plain
    rw [← follows.value] at plain
    simp only [Firing.token, Firing.value, kept, Bool.false_eq_true, if_false, plain]

/-- How a call came by its token: behind some matches that were discarded, the scanner was in a
state `u`, and in the mode that was active there a match was found, of a rule of that mode. -/
structure Accounts (modes : List (Mode σ)) (l : Lexer σ) (s : Scanner) (state : σ) (token : Token)
    (u : Scanner) (m : Mode σ) (rule : Rule σ) : Prop where
  reached : ∃ dropped f, Next l s state (dropped ++ [.consumed f]) (.ok (some token))
      (s.next l state).2.1 (s.next l state).2.2 ∧
    Trail l s dropped u ∧ u.turn l = (.consumed f, (s.next l state).2.1)
  active : modes[u.active]? = some m
  named : l.modeName u.active = m.name
  declared : rule ∈ m.rules
  comesOf : token.ComesOf rule

theorem exists_accounts (compiled : l.CompiledFrom modes) {state : σ} {token : Token}
    (given : (s.next l state).1 = .ok (some token)) :
    ∃ u m rule, Accounts modes l s state token u m rule := by
  obtain ⟨turns, call⟩ := next_spec l s state
  rw [given] at call
  obtain ⟨dropped, last, u, between, rfl, passed, final⟩ := call.exists_last
  obtain ⟨f, rfl, step, kept, rfl⟩ := final.consumed_of_token
  obtain ⟨m, a, declares⟩ := (meets_of_consumed step).exists_declares compiled
  exact ⟨u, m, a.rule, ⟨dropped, f, call, passed, step⟩, declares.active, declares.named,
    rule_mem_of_alternative declares.declared, declares.comesOf kept between⟩

/-- In every state of a scanner: the token of a call comes of a rule, not discarded, of the mode that
was active where its match was found, and both the lexer and the scanner own its kind.  A lexer of
modes owns the names of the rules that some mode declares and does not discard, a lexer of rules
those of all of them. -/
theorem next_accounted {modes : List (Mode σ)} {l : Lexer σ} (compiled : l.CompiledFrom modes) :
    (∀ s state token, (s.next l state).1 = .ok (some token) →
      (∃ u m rule, Accounts modes l s state token u m rule) ∧
        l.has token.kind = true ∧ (s.next l state).2.1.has l token.kind = true) ∧
    (Lexer.ofModes modes = .ok l → ∀ name, l.has name = true ↔
      ∃ m ∈ modes, ∃ rule ∈ m.rules, rule.options.discard = false ∧ rule.name = name) ∧
    ∀ rules, Lexer.ofRules rules = .ok l → ∀ name, l.has name = true ↔
      ∃ rule ∈ rules, rule.name = name := by
  refine ⟨?_, Lexer.has_of_ofModes, fun rules => Lexer.has_of_ofRules⟩
  intro s state token given
  obtain ⟨u, m, rule, accounts⟩ := exists_accounts compiled given
  have owned : l.has token.kind = true := by
    rw [accounts.comesOf.kind]
    exact compiled.has_of_kept (List.mem_of_getElem? accounts.active) accounts.declared
      accounts.comesOf.kept
  exact ⟨⟨u, m, rule, accounts⟩, owned, owned⟩

def crossedModes : List (Mode Unit) :=
  [⟨"words", [.ofVariants "word" [.regex "a+", .regex "b+"], (Rule.literal "blank" " ").discard,
      ((Rule.literal "open" "<").push "blanks").discard]⟩,
    ⟨"blanks", [(Rule.regex "word" "[ab]+").discard, .literal "blank" " ",
      (Rule.literal "close" ">").pop.discard]⟩]

/-- The one call discards matches in both modes before the token. -/
theorem crossedModes_accounted : ∃ l, Lexer.ofModes crossedModes = .ok l ∧ ∃ token,
    ((Scanner.start " <a>b".toList).next l ()).1 = .ok (some token) ∧
      (∃ u m rule, Accounts crossedModes l (.start " <a>b".toList) () token u m rule) ∧
      token.kind = "word" ∧ l.has "word" = true ∧ l.has "blank" = true ∧ l.has "open" = false := by
  obtain ⟨l, ok, first⟩ := exists_of_any (x := Lexer.ofModes crossedModes)
    (p := fun l => ((Scanner.start " <a>b".toList).next l ()).1.toOption.any fun given =>
      given.any fun token => token.kind = "word")
    (by decide)
  obtain ⟨given, drawn, named⟩ := exists_of_any first
  cases given with
  | none => cases named
  | some token =>
      have kind : token.kind = "word" := of_decide_eq_true named
      obtain ⟨accounted, owned, -⟩ := next_accounted (.modes ok)
      obtain ⟨accounts, has, -⟩ := accounted _ _ _ drawn
      rw [kind] at has
      refine ⟨l, ok, token, drawn, accounts, kind, has, ?_, ?_⟩
      · exact (owned ok "blank").2 (by decide)
      · apply Bool.eq_false_iff.2
        intro has
        exact absurd ((owned ok "open").1 has) (by decide)

end Scanner

end ModalLexer
