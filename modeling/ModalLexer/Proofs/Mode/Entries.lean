import ModalLexer.Mode.Lexer
import ModalLexer.Proofs.Mode.Layout

/-! # The entries of a compiled mode

Each rule of a mode becomes one entry, in order, with the rule's options and with the modes that
its transition names by their numbers (`CompiledMode.compile_entries`).  The modes of a lexer are
those that were given, one by one (`Lexer.compileEach_eq`). -/
set_option autoImplicit false
namespace ModalLexer

variable {σ : Type}

/-- An entry says of a match what the rule says. -/
structure Entry.Follows (resolve : String → Option Nat) (rule : Rule σ) (e : Entry σ) : Prop where
  kind : e.kind = rule.name
  discard : e.discard = rule.options.discard
  error : e.error = rule.options.error
  lineBreaks : e.lineBreaks = rule.options.lineBreaks
  value : e.value = rule.options.value
  jump : CompiledMode.jump resolve rule = .ok e.jump

namespace CompiledMode

variable {resolve : String → Option Nat}

/-- What the transition of a rule becomes when the modes it names are found. -/
inductive Resolved (resolve : String → Option Nat) : Transition → Jump → Prop
  | stay : Resolved resolve .none .stay
  | pop : Resolved resolve .pop .pop
  | switchTo {name : String} {number : Nat} (found : resolve name = some number) :
      Resolved resolve (.switchTo name) (.switchTo number)
  | push {name : String} {number : Nat} (found : resolve name = some number) :
      Resolved resolve (.push name) (.push number)

theorem resolved_of_jump {rule : Rule σ} {j : Jump} (ok : jump resolve rule = .ok j) :
    Resolved resolve rule.options.transition j := by
  unfold jump at ok
  split at ok
  · next way =>
      rw [way, ← Except.ok.inj ok]
      exact .stay
  · next way =>
      rw [way, ← Except.ok.inj ok]
      exact .pop
  · next way =>
      split at ok
      · next found =>
          rw [way, ← Except.ok.inj ok]
          exact .switchTo found
      · cases ok
  · next way =>
      split at ok
      · next found =>
          rw [way, ← Except.ok.inj ok]
          exact .push found
      · cases ok

/-- Modes are resolved to the same numbers, where they are at all. -/
def Agree (resolve resolve' : String → Option Nat) : Prop :=
  ∀ name i j, resolve name = some i → resolve' name = some j → i = j

theorem Resolved.unique {resolve' : String → Option Nat} (agree : Agree resolve resolve')
    {way : Transition} {j j' : Jump}
    (first : Resolved resolve way j) (second : Resolved resolve' way j') : j = j' := by
  cases first with
  | stay =>
      cases second
      rfl
  | pop =>
      cases second
      rfl
  | switchTo found =>
      cases second with
      | switchTo found' => exact congrArg Jump.switchTo (agree _ _ _ found found')
  | push found =>
      cases second with
      | push found' => exact congrArg Jump.push (agree _ _ _ found found')

theorem Resolved.ne_stay_iff {way : Transition} {j : Jump} (resolved : Resolved resolve way j) :
    j ≠ .stay ↔ way ≠ .none := by
  cases resolved <;> simp

theorem layRule_follows {next : Nat} {rule : Rule σ} {laid : Layout (Entry σ)}
    (ok : layRule resolve next rule = .ok laid) : laid.result.Follows resolve rule := by
  unfold layRule at ok
  split at ok
  · cases ok
  · obtain ⟨variants, -, ok⟩ := bind_eq_ok ok
    obtain ⟨found, jump, ok⟩ := bind_eq_ok ok
    obtain rfl := Except.ok.inj ok
    exact ⟨rfl, rfl, rfl, rfl, rfl, jump⟩

theorem layRules_follows {mode : String} {seen : List String} {next : Nat} {rules : List (Rule σ)}
    {laid : Layout (List (Entry σ))} (ok : layRules mode resolve seen next rules = .ok laid) :
    List.Forall₂ (Entry.Follows resolve) rules laid.result := by
  induction rules generalizing seen next laid with
  | nil =>
      obtain rfl := Except.ok.inj ok
      exact .nil
  | cons rule rest ih =>
      unfold layRules at ok
      split at ok
      · cases ok
      · obtain ⟨first, firstOk, ok⟩ := bind_eq_ok ok
        obtain ⟨more, moreOk, ok⟩ := bind_eq_ok ok
        obtain rfl := Except.ok.inj ok
        exact .cons (layRule_follows firstOk) (ih moreOk)

/-- A mode that compiles has its name, and the rules that were laid out. -/
theorem exists_layout {name : String} {rules : List (Rule σ)} {engine : Engine}
    {mode : CompiledMode σ} (ok : compile name rules resolve engine = .ok mode) :
    ∃ laid, layRules name resolve [] 1 rules engine = .ok laid ∧ mode.entries = laid.result ∧
      mode.name = name := by
  unfold compile at ok
  split at ok
  · cases ok
  · obtain ⟨laid, laidOk, ok⟩ := bind_eq_ok ok
    simp only [join] at ok
    split at ok
    · cases ok
    · split at ok
      · obtain rfl := Except.ok.inj ok
        exact ⟨laid, laidOk, rfl, rfl⟩
      · cases ok

theorem compile_entries {name : String} {rules : List (Rule σ)} {mode : CompiledMode σ}
    (ok : compile name rules resolve = .ok mode) :
    List.Forall₂ (Entry.Follows resolve) rules mode.entries ∧ (rules.map Rule.name).Nodup := by
  obtain ⟨laid, laidOk, entries, -⟩ := exists_layout ok
  rw [entries]
  exact ⟨layRules_follows laidOk, (layRules_names laidOk).1⟩

theorem name_of_compile {name : String} {rules : List (Rule σ)} {engine : Engine}
    {mode : CompiledMode σ} (ok : compile name rules resolve engine = .ok mode) :
    mode.name = name := by
  obtain ⟨laid, -, -, named⟩ := exists_layout ok
  exact named

theorem entry_mem_of_dispatch? {p : Path} {entries : List (Entry σ)} {d : Dispatch σ}
    (found : dispatch? p entries = some d) : d.entry ∈ entries := by
  induction entries with
  | nil => cases found
  | cons e rest ih =>
      rw [dispatch?] at found
      split at found
      · obtain rfl := Option.some.inj found
        exact List.mem_cons_self
      · exact List.mem_cons_of_mem e (ih found)

end CompiledMode

theorem Entry.Follows.transitions_iff {resolve : String → Option Nat} {rule : Rule σ} {e : Entry σ}
    (follows : e.Follows resolve rule) :
    e.transitions = true ↔ rule.options.transition ≠ .none := by
  rw [Entry.transitions, bne_iff_ne]
  exact (CompiledMode.resolved_of_jump follows.jump).ne_stay_iff

/-! ## Rows and entries -/

theorem exists_of_forall₂_right {α β : Type} {r : α → β → Prop} {as : List α} {bs : List β}
    (related : List.Forall₂ r as bs) {b : β} (member : b ∈ bs) : ∃ a ∈ as, r a b := by
  induction related with
  | nil => cases member
  | cons head tail ih =>
      rcases List.mem_cons.1 member with rfl | later
      · exact ⟨_, List.mem_cons_self, head⟩
      · obtain ⟨a, inside, holds⟩ := ih later
        exact ⟨a, List.mem_cons_of_mem _ inside, holds⟩

theorem exists_of_forall₂_left {α β : Type} {r : α → β → Prop} {as : List α} {bs : List β}
    (related : List.Forall₂ r as bs) {a : α} (member : a ∈ as) : ∃ b ∈ bs, r a b :=
  exists_of_forall₂_right (r := flip r) (.flip related) member

/-- The modes that the rules of a compiled mode lead to were found. -/
theorem CompiledMode.exists_jump {resolve : String → Option Nat} {name : String}
    {rules : List (Rule σ)} {mode : CompiledMode σ} (ok : compile name rules resolve = .ok mode)
    {rule : Rule σ} (member : rule ∈ rules) : ∃ j, jump resolve rule = .ok j := by
  obtain ⟨e, -, follows⟩ := exists_of_forall₂_left (compile_entries ok).1 member
  exact ⟨e.jump, follows.jump⟩

theorem getElem?_of_forall₂ {α β : Type} {r : α → β → Prop} {as : List α} {bs : List β}
    (related : List.Forall₂ r as bs) (i : Nat) :
    (as[i]? = none ∧ bs[i]? = none) ∨ ∃ a b, as[i]? = some a ∧ bs[i]? = some b ∧ r a b := by
  induction related generalizing i with
  | nil => exact .inl ⟨rfl, rfl⟩
  | cons head tail ih =>
      cases i with
      | zero => exact .inr ⟨_, _, rfl, rfl, head⟩
      | succ i => exact ih i

theorem exists_getElem?_of_forall₂ {α β : Type} {r : α → β → Prop} {as : List α} {bs : List β}
    (related : List.Forall₂ r as bs) {i : Nat} {a : α} (found : as[i]? = some a) :
    ∃ b, bs[i]? = some b ∧ r a b := by
  rcases getElem?_of_forall₂ related i with ⟨missing, -⟩ | ⟨a', b, given, there, holds⟩
  · rw [found] at missing
    cases missing
  · obtain rfl := Option.some.inj (found.symm.trans given)
    exact ⟨b, there, holds⟩

theorem rule_mem_of_alternative {rules : List (Rule σ)} {a : Alternative σ}
    (member : a ∈ alternatives rules) : a.rule ∈ rules := by
  obtain ⟨rule, inRules, ofRule⟩ := List.mem_flatMap.1 member
  rw [((rule.keys_alternatives 0 rule.variants).2 a ofRule).1]
  exact inRules

theorem Entry.fst_of_mem_targets {e : Entry σ} {n : Nat} {slots : List Slot} {t : Target σ}
    (member : t ∈ e.targets n slots) : t.1 = e := by
  induction slots generalizing n with
  | nil => cases member
  | cons slot rest ih =>
      rcases List.mem_cons.1 member with rfl | later
      · rfl
      · exact ih later

theorem entry_mem_of_target {entries : List (Entry σ)} {t : Target σ}
    (member : t ∈ targets entries) : t.1 ∈ entries := by
  obtain ⟨e, inEntries, ofEntry⟩ := List.mem_flatMap.1 member
  rw [Entry.fst_of_mem_targets ofEntry]
  exact inEntries

theorem exists_slotted {n : Nat} {rows : List (Row σ)} {r : Row σ} (member : r ∈ rows) :
    ∃ slot, (r.entry, r.alternative.variant, slot) ∈ slotted n rows := by
  induction rows generalizing n with
  | nil => cases member
  | cons first rest ih =>
      rcases List.mem_cons.1 member with rfl | later
      · exact ⟨_, List.mem_cons_self⟩
      · obtain ⟨slot, inside⟩ := ih later
        exact ⟨slot, List.mem_cons_of_mem _ inside⟩

/-- The entry of a row is what its rule became; names tell the rules of a mode apart. -/
theorem Compiled.follows {resolve : String → Option Nat} {name : String} {rules : List (Rule σ)}
    {mode : CompiledMode σ} {rows : List (Row σ)} (compiled : Compiled mode rules rows)
    (ok : CompiledMode.compile name rules resolve = .ok mode) {r : Row σ} (member : r ∈ rows) :
    r.entry.Follows resolve r.alternative.rule := by
  obtain ⟨entries, distinct⟩ := CompiledMode.compile_entries ok
  obtain ⟨slot, inside⟩ := exists_slotted (n := 1) member
  rw [← compiled.targets_eq] at inside
  obtain ⟨rule, inRules, follows⟩ := exists_of_forall₂_right entries (entry_mem_of_target inside)
  have own : r.alternative.rule ∈ rules := by
    apply rule_mem_of_alternative
    rw [← compiled.alternatives_eq]
    exact List.mem_map_of_mem member
  have named : rule.name = r.alternative.rule.name := by rw [← follows.kind, r.kind_eq]
  rw [← List.inj_on_of_nodup_map distinct inRules own named]
  exact follows

namespace Lexer

theorem compileEach_eq {resolve : String → Option Nat} {modes : List (Mode σ)} {engine : Engine}
    {compiled : List (CompiledMode σ)} (ok : compileEach resolve modes engine = .ok compiled) :
    List.Forall₂ (fun m c => CompiledMode.compile m.name m.rules resolve engine = .ok c) modes
      compiled := by
  induction modes generalizing compiled with
  | nil =>
      obtain rfl := Except.ok.inj ok
      exact .nil
  | cons m modes ih =>
      obtain ⟨first, made, ok⟩ := bind_eq_ok ok
      obtain ⟨more, rest, ok⟩ := bind_eq_ok ok
      obtain rfl := Except.ok.inj ok
      exact .cons made (ih rest)

theorem compileEach_of_ofModes {modes : List (Mode σ)} {engine : Engine} {l : Lexer σ}
    (ok : ofModes modes engine = .ok l) :
    modes ≠ [] ∧ compileEach (modeNumber? modes) modes engine = .ok l.modes := by
  simp only [ofModes] at ok
  split at ok
  · cases ok
  · next some_mode =>
      split at ok
      · cases ok
      · obtain ⟨compiled, each, ok⟩ := bind_eq_ok ok
        obtain rfl := Except.ok.inj ok
        exact ⟨fun empty => some_mode (List.isEmpty_iff.2 empty), each⟩

theorem exists_compileEach {resolve : String → Option Nat} {modes : List (Mode σ)}
    (each : ∀ m ∈ modes, ∃ c, CompiledMode.compile m.name m.rules resolve = .ok c) :
    ∃ compiled, compileEach resolve modes = .ok compiled := by
  induction modes with
  | nil => exact ⟨[], rfl⟩
  | cons m rest ih =>
      rw [List.forall_mem_cons] at each
      obtain ⟨first, made⟩ := each.1
      obtain ⟨more, made'⟩ := ih each.2
      refine ⟨first :: more, ?_⟩
      rw [compileEach, made]
      simp only [bind, Except.bind, made']
      rfl

/-- Modes of different names that compile, one by one, make a lexer. -/
theorem exists_ofModes {modes : List (Mode σ)} (nonempty : modes ≠ [])
    (distinct : repeatedName? [] modes = none)
    (each : ∀ m ∈ modes, ∃ c, CompiledMode.compile m.name m.rules (modeNumber? modes) = .ok c) :
    ∃ l, ofModes modes = .ok l := by
  obtain ⟨compiled, made⟩ := exists_compileEach each
  have some_mode : ¬ modes.isEmpty = true := by simpa using nonempty
  let kept := (modes.flatMap (·.rules)).filter fun rule => !rule.options.discard
  refine ⟨⟨compiled, kept.map (·.name)⟩, ?_⟩
  simp only [ofModes, if_neg some_mode, distinct, made, bind, Except.bind]
  rfl

theorem repeatedName?_of_ofModes {modes : List (Mode σ)} {l : Lexer σ}
    (ok : ofModes modes = .ok l) : repeatedName? [] modes = none := by
  simp only [ofModes] at ok
  split at ok
  · cases ok
  · split at ok
    · cases ok
    · next fresh => exact fresh

theorem compile_of_ofRules {rules : List (Rule σ)} {engine : Engine} {l : Lexer σ}
    (ok : ofRules rules engine = .ok l) :
    ∃ mode, CompiledMode.compile main rules (fun _ => none) engine = .ok mode ∧
      l.modes = [mode] := by
  obtain ⟨mode, made, ok⟩ := bind_eq_ok ok
  obtain rfl := Except.ok.inj ok
  exact ⟨mode, made, rfl⟩

theorem exists_ofRules {rules : List (Rule σ)} {mode : CompiledMode σ}
    (made : CompiledMode.compile main rules (fun _ => none) = .ok mode) :
    ∃ l, ofRules rules = .ok l := by
  refine ⟨⟨[mode], rules.map (·.name)⟩, ?_⟩
  rw [ofRules, made]
  rfl

theorem modeNumber?_lt {modes : List (Mode σ)} {name : String} {number : Nat}
    (found : modeNumber? modes name = some number) : number < modes.length :=
  (List.findIdx?_eq_some_iff_findIdx_eq.1 found).1

/-- A lexer that modes were compiled to, or rules, which are then those of the one mode. -/
inductive CompiledFrom : List (Mode σ) → Lexer σ → Prop
  | modes {modes : List (Mode σ)} {l : Lexer σ} (ok : ofModes modes = .ok l) :
      CompiledFrom modes l
  | rules {rules : List (Rule σ)} {l : Lexer σ} (ok : ofRules rules = .ok l) :
      CompiledFrom [⟨main, rules⟩] l

/-- A mode was compiled, and its transitions lead to the modes they name. -/
def Resolves (modes : List (Mode σ)) (m : Mode σ) (mode : CompiledMode σ) : Prop :=
  ∃ resolve, CompiledMode.compile m.name m.rules resolve = .ok mode ∧
    ∀ name number, resolve name = some number → modeNumber? modes name = some number

theorem CompiledFrom.resolves {modes : List (Mode σ)} {l : Lexer σ}
    (compiled : CompiledFrom modes l) : List.Forall₂ (Resolves modes) modes l.modes := by
  cases compiled with
  | modes ok =>
      exact (compileEach_eq (compileEach_of_ofModes ok).2).imp fun m mode made =>
        ⟨_, made, fun name number found => found⟩
  | rules ok =>
      obtain ⟨mode, made, same⟩ := compile_of_ofRules ok
      rw [same]
      exact .cons ⟨_, made, nofun⟩ .nil

/-- What the rules of a lexer became are its entries. -/
theorem CompiledFrom.exists_rule {modes : List (Mode σ)} {l : Lexer σ}
    (compiled : CompiledFrom modes l) {mode : CompiledMode σ} (inModes : mode ∈ l.modes)
    {e : Entry σ} (inEntries : e ∈ mode.entries) :
    ∃ m ∈ modes, ∃ rule ∈ m.rules, ∃ resolve, e.Follows resolve rule := by
  obtain ⟨m, given, resolve, made, -⟩ := exists_of_forall₂_right compiled.resolves inModes
  obtain ⟨entries, -⟩ := CompiledMode.compile_entries made
  obtain ⟨rule, inRules, follows⟩ := exists_of_forall₂_right entries inEntries
  exact ⟨m, given, rule, inRules, resolve, follows⟩

end Lexer

end ModalLexer
