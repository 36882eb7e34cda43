import ModalLexer.Proofs.Scan.Reconstruction

/-! # Locations go onward

A match takes a scanner to a later location, or to the same one if it is empty, and so the tokens
of a run are in the order of their locations (`Scanner.nextTimes_inOrder`).  Only a match that
counts as exactly no line breaks may lead back: it goes on in the line it is in, but in its first
column.  The builder never sets that policy by a number of line breaks (`Rule.Stepwise.steady`),
options given as a whole can (`Scanner.resetColumnRules_not_inOrder`). -/
set_option autoImplicit false
namespace ModalLexer

variable {σ : Type}

namespace Location

variable {a b c : Location} {text : List Char}

theorem before_iff : a.before b = true ↔
    a.line.toNat < b.line.toNat ∨ a.line.toNat = b.line.toNat ∧ a.col.toNat < b.col.toNat := by
  simp [before, UInt64.lt_iff_toNat_lt, ← UInt64.toNat_inj]

theorem notAfter_iff : a.notAfter b = true ↔
    a.line.toNat < b.line.toNat ∨ a.line.toNat = b.line.toNat ∧ a.col.toNat ≤ b.col.toNat := by
  simp [notAfter, UInt64.lt_iff_toNat_lt, UInt64.le_iff_toNat_le, ← UInt64.toNat_inj]

theorem notAfter_refl (a : Location) : a.notAfter a = true :=
  notAfter_iff.2 (.inr ⟨rfl, Nat.le_refl _⟩)

theorem notAfter_trans (first : a.notAfter b = true) (second : b.notAfter c = true) :
    a.notAfter c = true := by
  rw [notAfter_iff] at *
  omega

theorem before_of_before_of_notAfter (first : a.before b = true) (second : b.notAfter c = true) :
    a.before c = true := by
  rw [before_iff] at *
  rw [notAfter_iff] at second
  omega

/-- A location behind a text at another one: it is not before that one, and after it unless the text
is empty. -/
structure Onward (a : Location) (text : List Char) (b : Location) : Prop where
  notAfter : a.notAfter b = true
  before : text ≠ [] → a.before b = true

theorem Onward.trans (first : a.Onward text b) (second : b.notAfter c = true) :
    a.Onward text c := by
  refine ⟨notAfter_trans first.notAfter second, ?_⟩
  intro some_text
  exact before_of_before_of_notAfter (first.before some_text) second

/-- Advancing over a text that counts as exactly no line breaks leads back to the first column,
though there is something before the text in its line or in the text. -/
def StepsBack (a : Location) (text : List Char) (policy : LineBreaks) : Prop :=
  policy = .fixed 0 ∧ (1 < a.col ∨ a.col = 1 ∧ text ≠ [])

theorem onward_of_col {a : Location} {text : List Char}
    (fits : a.col.toNat + text.length < UInt64.size) :
    a.Onward text ⟨a.line, a.col + .ofNat text.length⟩ := by
  have col := toNat_add_ofNat fits
  refine ⟨notAfter_iff.2 (.inr ⟨rfl, ?_⟩), fun some_text => before_iff.2 (.inr ⟨rfl, ?_⟩)⟩
  · rw [col]
    exact Nat.le_add_right _ _
  · rw [col]
    exact Nat.lt_add_of_pos_right (List.length_pos_iff.2 some_text)

theorem onward_of_line {a b : Location} (lower : a.line < b.line) (text : List Char) :
    a.Onward text b := by
  rw [UInt64.lt_iff_toNat_lt] at lower
  exact ⟨notAfter_iff.2 (.inl lower), fun _ => before_iff.2 (.inl lower)⟩

theorem onward_firstCol_iff (a : Location) (text : List Char) :
    a.Onward text ⟨a.line, 1⟩ ↔ ¬ (1 < a.col ∨ a.col = 1 ∧ text ≠ []) := by
  rw [UInt64.lt_iff_toNat_lt, ← UInt64.toNat_inj, UInt64.toNat_one]
  constructor
  · rintro ⟨notAfter, before⟩ back
    simp only [notAfter_iff, before_iff, UInt64.toNat_one] at notAfter before
    rcases back with later | ⟨first, some_text⟩
    · omega
    · have grown := before some_text
      omega
  · intro steady
    have notLater : ¬ 1 < a.col.toNat := fun later => steady (.inl later)
    refine ⟨notAfter_iff.2 (.inr ⟨rfl, Nat.le_of_not_lt notLater⟩), ?_⟩
    intro some_text
    have notFirst : a.col.toNat ≠ 1 := fun first => steady (.inr ⟨first, some_text⟩)
    exact before_iff.2 (.inr ⟨rfl, Nat.lt_of_le_of_ne (Nat.le_of_not_lt notLater) notFirst⟩)

/-- Whatever the policy, advancing goes onward or steps back, unless a sum is too large. -/
theorem onward_advance_iff {a : Location} {text : List Char} {policy : LineBreaks}
    (fits : a.Fits text policy) :
    a.Onward text (a.advance text policy).1 ↔ ¬ a.StepsBack text policy := by
  cases policy with
  | none => exact iff_of_true (onward_of_col fits) nofun
  | scan =>
      refine iff_of_true ?_ nofun
      rw [Fits] at fits
      by_cases plain : Lines.breakCount text = 0
      · rw [if_pos plain] at fits
        rw [advance_scan_of_zero plain]
        exact onward_of_col fits
      · rw [if_neg plain] at fits
        rw [advance_scan_of_ne_zero plain]
        have lower := (further_add a.line _).lt fits.1 (Nat.pos_of_ne_zero plain)
        exact onward_of_line lower text
  | fixed n =>
      by_cases none : n = 0
      · subst none
        simp only [StepsBack, true_and, advance, UInt64.add_zero]
        exact onward_firstCol_iff a text
      · have some : 0 < n.toNat := UInt64.lt_iff_toNat_lt.1 (UInt64.pos_iff_ne_zero.2 none)
        have lower := (a.advance_further text (.fixed n)).lt fits some
        refine iff_of_true (onward_of_line lower text) ?_
        rintro ⟨policy, -⟩
        exact none (LineBreaks.fixed.inj policy)

end Location

/-- Rules whose options were set one after the other. -/
inductive Rule.Stepwise : Rule σ → Prop
  | ofVariants (name : String) (variants : List Source) : Stepwise (.ofVariants name variants)
  | discard {r : Rule σ} (earlier : r.Stepwise) : Stepwise r.discard
  | error {r : Rule σ} (earlier : r.Stepwise) : Stepwise r.error
  | wordBound {r : Rule σ} (earlier : r.Stepwise) : Stepwise r.wordBound
  | lineBreaks {r : Rule σ} (n : UInt64) (earlier : r.Stepwise) : Stepwise (r.lineBreaks n)
  | countLineBreaks {r : Rule σ} (earlier : r.Stepwise) : Stepwise r.countLineBreaks
  | transition {r : Rule σ} (t : Transition) (earlier : r.Stepwise) : Stepwise (r.transition t)
  | value {r : Rule σ} (f : ValueFn σ) (earlier : r.Stepwise) : Stepwise (r.value f)

/-- No line breaks, set as a number of them, are the policy that moves the column alone. -/
theorem Rule.Stepwise.steady {r : Rule σ} (stepwise : r.Stepwise) :
    r.options.lineBreaks ≠ .fixed 0 := by
  induction stepwise with
  | ofVariants => exact nofun
  | countLineBreaks earlier ih => exact nofun
  | lineBreaks n earlier ih =>
      intro same
      simp only [Rule.lineBreaks] at same
      split at same
      · cases same
      · next positive => exact positive (LineBreaks.fixed.inj same)
  | _ => assumption

def Firing.StepsBack (f : Firing σ) : Prop := f.location.StepsBack f.chars f.entry.lineBreaks

theorem Firing.onward_iff {f : Firing σ} (fits : f.Fits) :
    f.location.Onward f.chars f.advance.1 ↔ ¬ f.StepsBack :=
  Location.onward_advance_iff fits

namespace Scanner

variable {l : Lexer σ} {s t : Scanner} {turn : Turn σ} {turns : List (Turn σ)} {f : Firing σ}

/-- The matches of some turns never begin before an earlier one, nor where one does that is not
empty, and each goes onward. -/
structure InOrder (turns : List (Turn σ)) : Prop where
  across : ∀ f ∈ matched turns, f.location.Onward f.chars f.advance.1
  begins : (matched turns).Pairwise fun f g => f.location.Onward f.chars g.location

structure Rises (s : Scanner) (turns : List (Turn σ)) (t : Scanner) : Prop where
  whole : s.location.notAfter t.location = true
  behind : ∀ f ∈ matched turns, s.location.notAfter f.location = true
  ordered : InOrder turns

theorem rises_of_unmoved {u : Scanner} (step : s.turn l = (turn, t)) (unmoved : turn.moved? = none)
    (later : t.Rises turns u) : s.Rises (turn :: turns) u := by
  have same : matched (turn :: turns) = matched turns := List.filterMap_cons_none unmoved
  obtain ⟨-, location⟩ := unmoved_cases step unmoved
  refine ⟨location ▸ later.whole, ?_, ?_, ?_⟩
  · rw [same, ← location]
    exact later.behind
  · rw [same]
    exact later.ordered.across
  · rw [same]
    exact later.ordered.begins

theorem rises_of_moved {u : Scanner} (step : s.turn l = (turn, t)) (moved : turn.moved? = some f)
    (across : f.location.Onward f.chars f.advance.1) (later : t.Rises turns u) :
    s.Rises (turn :: turns) u := by
  have apart : matched (turn :: turns) = f :: matched turns := List.filterMap_cons_some moved
  obtain ⟨meets, -, stop⟩ := cases_of_moved step moved
  obtain ⟨mode, -, -, -, start⟩ := firing?_cases meets.found
  -- The match begins where the scanner is, and what comes later is behind its end.
  have onward := across
  rw [← stop, start] at onward
  refine ⟨Location.notAfter_trans onward.notAfter later.whole, ?_, ?_, ?_⟩
  · rw [apart, List.forall_mem_cons, start]
    refine ⟨Location.notAfter_refl _, ?_⟩
    intro g member
    exact Location.notAfter_trans onward.notAfter (later.behind g member)
  · rw [apart, List.forall_mem_cons]
    exact ⟨across, later.ordered.across⟩
  · rw [apart, List.pairwise_cons, start]
    refine ⟨?_, later.ordered.begins⟩
    intro g member
    exact onward.trans (later.behind g member)

theorem Trail.rises (trail : Trail l s turns t)
    (across : ∀ f ∈ matched turns, f.location.Onward f.chars f.advance.1) : s.Rises turns t := by
  induction trail with
  | nil s =>
      exact ⟨Location.notAfter_refl _, List.forall_mem_nil _, List.forall_mem_nil _, .nil⟩
  | @cons s t u turn turns step later ih =>
      rw [matched_cons, List.forall_mem_append] at across
      have rises := ih across.2
      cases moved : turn.moved? with
      | none => exact rises_of_unmoved step moved rises
      | some f =>
          refine rises_of_moved step moved (across.1 f ?_) rises
          rw [matched, List.filterMap_cons_some moved]
          exact List.mem_cons_self

theorem Trail.inOrder_iff (trail : Trail l s turns t) (fits : ∀ f ∈ matched turns, f.Fits) :
    InOrder turns ↔ ∀ f ∈ matched turns, ¬ f.StepsBack := by
  constructor
  · intro inOrder f member
    exact (Firing.onward_iff (fits f member)).1 (inOrder.across f member)
  · intro steady
    have across := fun f member => (Firing.onward_iff (fits f member)).2 (steady f member)
    exact (trail.rises across).ordered

/-- Rules that do not count as exactly no line breaks lead nowhere back. -/
theorem Trail.steady_of_compiled {modes : List (Mode σ)} (trail : Trail l s turns t)
    (compiled : l.CompiledFrom modes)
    (policies : ∀ m ∈ modes, ∀ rule ∈ m.rules, rule.options.lineBreaks ≠ .fixed 0) :
    ∀ f ∈ matched turns, ¬ f.StepsBack := by
  intro f member back
  obtain ⟨mode, inModes, inEntries⟩ := trail.entry_mem member
  obtain ⟨m, given, rule, inRules, resolve, follows⟩ := compiled.exists_rule inModes inEntries
  apply policies m given rule inRules
  rw [← follows.lineBreaks]
  exact back.1

theorem emitted_sublist (earlier : List (Firing σ)) (turns : List (Turn σ)) :
    ((emitted earlier turns).map Prod.snd).Sublist (matched turns) := by
  induction turns generalizing earlier with
  | nil => exact .slnil
  | cons turn turns ih =>
      cases turn with
      | ended => exact ih earlier
      | stuck f => exact ih earlier
      | unbalanced f => exact (ih _).cons f
      | consumed f =>
          rw [emitted]
          split
          · exact (ih _).cons f
          · exact (ih _).cons_cons f

theorem pairwise_of_forall₂ {α β : Type} {r : α → β → Prop} {p : α → α → Prop} {q : β → β → Prop}
    {as : List α} {bs : List β} (taken : ∀ a b a' b', r a b → r a' b' → p a a' → q b b')
    (related : List.Forall₂ r as bs) (ordered : as.Pairwise p) : bs.Pairwise q := by
  induction related with
  | nil => exact .nil
  | @cons a b as bs head tail ih =>
      obtain ⟨first, rest⟩ := List.pairwise_cons.1 ordered
      refine List.pairwise_cons.2 ⟨?_, ih rest⟩
      intro b' member
      obtain ⟨a', inside, same⟩ := exists_of_forall₂_right tail member
      exact taken a b a' b' head same (first a' inside)

variable {state after : σ} {items : List Item}

/-- The tokens of a run in order are in order too, each behind the text of those before. -/
theorem Calls.tokens_inOrder (calls : Calls l s state turns items t after)
    (inOrder : InOrder turns) :
    (tokensOf items).Pairwise fun a b => a.location.Onward a.text.toList b.location := by
  have begins := inOrder.begins.sublist (emitted_sublist [] turns)
  refine pairwise_of_forall₂ ?_ (calls.emits []) (List.pairwise_map.1 begins)
  rintro e a e' b ⟨value, rfl⟩ ⟨value', rfl⟩ onward
  have text : (e.2.token value).text.toList = e.2.chars := String.toList_ofList
  rw [text]
  exact onward

/-- A number of calls for the next token, in any state of a scanner.  If the matches go onward, each
to where the next one begins, then the tokens are in the order of their locations, and those behind
one that is not empty are after it.

Unless a line or a column gets too large, the matches go onward exactly if none of them steps back,
and no match does if no rule counts as exactly no line breaks. -/
theorem nextTimes_inOrder {modes : List (Mode σ)} {l : Lexer σ} (compiled : l.CompiledFrom modes)
    (s : Scanner) (n : Nat) (state : σ) : ∃ turns,
    Calls l s state turns (nextTimes l n s state).1 (nextTimes l n s state).2.1
      (nextTimes l n s state).2.2 ∧
    (InOrder turns → (tokensOf (nextTimes l n s state).1).Pairwise fun a b =>
      a.location.Onward a.text.toList b.location) ∧
    ((∀ f ∈ matched turns, f.Fits) →
      (InOrder turns ↔ ∀ f ∈ matched turns, ¬ f.StepsBack) ∧
      ((∀ m ∈ modes, ∀ rule ∈ m.rules, rule.options.lineBreaks ≠ .fixed 0) →
        InOrder turns)) := by
  obtain ⟨turns, calls⟩ := nextTimes_spec l n s state
  refine ⟨turns, calls, calls.tokens_inOrder, ?_⟩
  intro fits
  have ordered := calls.trail.inOrder_iff fits
  refine ⟨ordered, ?_⟩
  intro policies
  exact ordered.2 (calls.trail.steady_of_compiled compiled policies)

def orderedModes : List (Mode Unit) :=
  [⟨"main", [.regex "word" "a+", (Rule.literal "gap" " ").lineBreaks 0,
    (Rule.regex "return" "\\n+").countLineBreaks.discard, (Rule.literal "mark" ";").lineBreaks 1]⟩]

theorem orderedModes_inOrder : ∃ l, Lexer.ofModes orderedModes = .ok l ∧ ∃ turns,
    Calls l (.start "a a;\n\na".toList) () turns
      (nextTimes l 6 (.start "a a;\n\na".toList) ()).1
      (nextTimes l 6 (.start "a a;\n\na".toList) ()).2.1 () ∧
    InOrder turns ∧
    ((tokensOf (nextTimes l 6 (.start "a a;\n\na".toList) ()).1).Pairwise fun a b =>
      a.location.Onward a.text.toList b.location) := by
  obtain ⟨l, ok, within⟩ := exists_of_any (x := Lexer.ofModes orderedModes)
    (p := fun l => fitsWithin l 8 (.start "a a;\n\na".toList)) (by decide)
  obtain ⟨turns, calls, tokens, steady⟩ :=
    nextTimes_inOrder (.modes ok) (.start "a a;\n\na".toList) 6 ()
  have inOrder := (steady (calls.trail.fits_of_fitsWithin within)).2 (by decide)
  exact ⟨l, ok, turns, calls, inOrder, tokens inOrder⟩

def resetColumnRules : List (Rule Unit) :=
  [.regex "word" "a+", (Rule.literal "gap" " ").withOptions { lineBreaks := .fixed 0 }]

/-- The word behind the gap is in the column of the word before it. -/
theorem resetColumnRules_not_inOrder : ∃ l, Lexer.ofRules resetColumnRules = .ok l ∧ ∃ turns,
    Calls l (.start "a a".toList) () turns (nextTimes l 3 (.start "a a".toList) ()).1
      (nextTimes l 3 (.start "a a".toList) ()).2.1 () ∧
    (tokensOf (nextTimes l 3 (.start "a a".toList) ()).1).map Token.location =
      [⟨1, 1⟩, ⟨1, 2⟩, ⟨1, 1⟩] ∧
    ¬ InOrder turns := by
  obtain ⟨l, ok, located⟩ := exists_of_any (x := Lexer.ofRules resetColumnRules)
    (p := fun l => (tokensOf (nextTimes l 3 (.start "a a".toList) ()).1).map Token.location =
      [⟨1, 1⟩, ⟨1, 2⟩, ⟨1, 1⟩])
    (by decide)
  have locations := of_decide_eq_true located
  obtain ⟨turns, calls⟩ := nextTimes_spec l 3 (.start "a a".toList) ()
  refine ⟨l, ok, turns, calls, locations, ?_⟩
  intro inOrder
  have notAfter := (calls.tokens_inOrder inOrder).imp fun onward => onward.notAfter
  rw [← List.pairwise_map (f := Token.location) (R := fun a b => a.notAfter b = true),
    locations] at notAfter
  revert notAfter
  decide

end Scanner

end ModalLexer
