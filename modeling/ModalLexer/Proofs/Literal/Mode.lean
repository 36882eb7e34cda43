import ModalLexer.Proofs.Literal.Matching
import ModalLexer.Proofs.Mode.FirstMatch
import ModalLexer.Proofs.Scan.Turn

/-! # Modes of texts

A mode whose rules match texts alone finds what walking through the texts finds: of all of them, in
the order of the rules, the variants and the texts of a variant, the first that comes next and ends
at the edge of a word if it must (`findsLeaf_of_walk?`). -/
set_option autoImplicit false
namespace ModalLexer

variable {σ : Type}

namespace Literal

theorem mem_lexemes {texts : List (List Char)} {l : Lexeme} (member : l ∈ lexemes texts) :
    l.turnsVerbose = false ∧ l.isCapture = false := by
  have char {text : List Char} (inText : l ∈ charLexemes text) :
      l.turnsVerbose = false ∧ l.isCapture = false := by
    obtain ⟨c, -, rfl⟩ := List.mem_map.1 inText
    exact ⟨rfl, rfl⟩
  induction texts with
  | nil => cases member
  | cons text texts ih =>
      cases texts with
      | nil => exact char member
      | cons next texts =>
          rcases List.mem_append.1 member with first | later
          · exact char first
          · rcases List.mem_cons.1 later with rfl | later
            · exact ⟨rfl, rfl⟩
            · exact ih later

theorem captures_lexemes (texts : List (List Char)) : captures (lexemes texts) = 0 :=
  List.countP_eq_zero.2 fun l member => by simp [(mem_lexemes member).2]

end Literal

theorem Branch.meaning?_own_of_wordBound (b : Branch) (bound : b.wordBound = true) {p : Pattern}
    (meant : b.fragment.tree.meaning? .multiLineCrlf = some p) : b.own.meaning? .multiLineCrlf =
      some (.sequenceAll [p, .look (.wordBoundary true)]) := by
  obtain ⟨⟨piece, behind⟩, found, rfl⟩ := Option.map_eq_some_iff.1 meant
  have inner : b.fragment.tree.piece? ⟨Flags.multiLineCrlf.change [], 1⟩ = some (piece, behind) :=
    found
  rw [own, if_pos bound, Tree.meaning?, Tree.piece?, Tree.piece?]
  simp only [inner]
  rfl

def Spot.atWordEdge (s : Spot) : Bool :=
  s.before?.any Unicode.isWord != s.after?.any Unicode.isWord

theorem Spot.holds_wordBoundary (s : Spot) :
    (Look.wordBoundary true).holds s = s.atWordEdge := by
  have word : isWordChar true = Unicode.isWord := by
    funext c
    rw [isWordChar, if_pos rfl]
  rw [Look.holds, Look.wordBefore, Look.wordAfter, word, atWordEdge]

def Alternative.fits (a : Alternative σ) (s : Spot) : Bool :=
  !a.rule.options.wordBound || s.atWordEdge

namespace Row

variable {r : Row σ} (literal : r.alternative.source.isLiteral = true)

include literal

theorem leaves_ne_nil : r.alternative.source.leaves ≠ [] :=
  (r.alternative.source.fragment?_of_isLiteral literal r.source_eq).1

theorem lexemes_of_literal : r.fragment.lexemes = Literal.lexemes r.alternative.source.leaves := by
  obtain ⟨some_text, written⟩ := r.alternative.source.fragment?_of_isLiteral literal r.source_eq
  have lexed := r.fragment.lexed
  rw [written] at lexed
  exact Option.some.inj (lexed.symm.trans (Literal.lexemes?_written some_text))

theorem tree_of_literal : r.fragment.tree = Literal.tree r.alternative.source.leaves := by
  have built := r.fragment.built
  rw [lexemes_of_literal literal] at built
  exact Option.some.inj (built.symm.trans (Literal.ofLexemes?_lexemes (leaves_ne_nil literal)))

theorem groups_of_literal : r.pattern.groups = [] := by
  have counted := Tree.captures_ofLexemes? r.fragment.built
  rw [lexemes_of_literal literal, Literal.captures_lexemes] at counted
  rw [r.groups_eq]
  refine List.eq_nil_iff_forall_not_mem.2 fun g member => ?_
  have bounds := (r.fragment.tree.groups_sorted 1).2 g member
  omega

theorem keepsGroups_of_literal : r.alternative.KeepsGroups := by
  have span : r.branch.span = 1 := by
    have captured := Literal.captures_lexemes r.alternative.source.leaves
    rw [← lexemes_of_literal literal] at captured
    exact congrArg (· + 1) captured
  have width : r.width = 1 := by
    rw [width, slot, Slot.ofGroups, groups_of_literal literal]
    rfl
  rw [r.keepsGroups_iff, width, span]

theorem turnsVerbose_of_literal : r.alternative.turnsVerbose = false := by
  rw [Alternative.turnsVerbose, r.source_eq, Option.bind_some, r.fragment.lexed, Option.any_some,
    List.any_eq_false, lexemes_of_literal literal]
  intro l member
  simp [(Literal.mem_lexemes member).1]

/-- The variant by itself matches where the first of its texts ends that fits. -/
theorem first?_of_literal (s : Spot) : (r.branch.pattern .multiLineCrlf).first? s =
    (Literal.firstEnd? r.alternative.fits s r.alternative.source.leaves).map
      (Path.start s).moveTo := by
  have some_text := leaves_ne_nil literal
  have meant : (Literal.tree r.alternative.source.leaves).meaning? .multiLineCrlf = some _ :=
    Literal.meaning?_tree rfl some_text
  rw [← tree_of_literal literal] at meant
  by_cases bound : r.alternative.rule.options.wordBound = true
  · have own := r.branch.meaning?_own_of_wordBound bound meant
    have fits : r.alternative.fits = (Look.wordBoundary true).holds := by
      funext t
      rw [Alternative.fits, bound, Spot.holds_wordBoundary, Bool.not_true, Bool.false_or]
    rw [Branch.pattern, own, Option.getD_some, Literal.first?_pattern_look some_text, fits]
  · have own : r.branch.own = r.fragment.tree := by
      rw [Branch.own, branch, if_neg bound]
    have fits : r.alternative.fits = fun _ => true := by
      funext t
      rw [Alternative.fits, Bool.eq_false_iff.2 bound, Bool.not_false, Bool.true_or]
    rw [Branch.pattern, own, meant, Option.getD_some, Literal.first?_pattern some_text, fits]

end Row

/-! ## Walking through the texts -/

/-- A text that a variant can match. -/
structure Leaf (σ : Type) where
  alternative : Alternative σ
  text : List Char

namespace Leaf

def stop? (leaf : Leaf σ) (s : Spot) : Option Spot :=
  (s.skip? leaf.text).filter leaf.alternative.fits

end Leaf

/-- All texts that some rules can match: rule by rule, variant by variant, text by text. -/
def leaves (rules : List (Rule σ)) : List (Leaf σ) :=
  (alternatives rules).flatMap fun a => a.source.leaves.map (Leaf.mk a)

/-- The first of all texts that is there at a place, with the place behind it. -/
def walk? (rules : List (Rule σ)) (s : Spot) : Option (Leaf σ × Spot) :=
  (leaves rules).findSome? fun leaf => (leaf.stop? s).map fun stop => (leaf, stop)

def Alternative.walk? (a : Alternative σ) (s : Spot) : Option (Leaf σ × Spot) :=
  (a.source.leaves.map (Leaf.mk a)).findSome? fun leaf =>
    (leaf.stop? s).map fun stop => (leaf, stop)

theorem walk?_eq (rules : List (Rule σ)) (s : Spot) :
    walk? rules s = (alternatives rules).findSome? fun a => a.walk? s := by
  rw [walk?, leaves]
  induction alternatives rules with
  | nil => rfl
  | cons a rest ih =>
      rw [List.flatMap_cons, List.findSome?_append, ih, List.findSome?_cons, Alternative.walk?]
      split
      · next found => rw [found, Option.some_or]
      · next none => rw [none, Option.none_or]

theorem Alternative.map_walk? (a : Alternative σ) (s : Spot) :
    (a.walk? s).map (·.2) = Literal.firstEnd? a.fits s a.source.leaves := by
  rw [walk?, List.findSome?_map, List.map_findSome?, Literal.firstEnd?]
  congr 1
  funext text
  simp [Leaf.stop?, Function.comp_def]

theorem Alternative.walk?_cases {a : Alternative σ} {s t : Spot} {leaf : Leaf σ}
    (found : a.walk? s = some (leaf, t)) :
    leaf.alternative = a ∧ Spot.Leads s leaf.text t := by
  obtain ⟨other, member, stopped⟩ := List.exists_of_findSome?_eq_some found
  obtain ⟨text, -, rfl⟩ := List.mem_map.1 member
  obtain ⟨stop, fits, same⟩ := Option.map_eq_some_iff.1 stopped
  obtain ⟨rfl, rfl⟩ := Prod.mk.inj same
  obtain ⟨skipped, -⟩ := Option.filter_eq_some_iff.1 fits
  exact ⟨rfl, (Spot.skip?_eq_some_iff _).1 skipped⟩

/-- A mode of texts finds what walking through them finds. -/
structure FindsLeaf (resolve : String → Option Nat) (mode : CompiledMode σ) (s : Spot)
    (leaf : Leaf σ) (stop : Spot) (path : Path) (d : Dispatch σ) : Prop where
  finds : mode.Finds s path d
  extent : d.extent = ⟨s, stop⟩
  chars : d.extent.text = leaf.text
  variant : d.variant = leaf.alternative.variant
  entry : d.entry.Follows resolve leaf.alternative.rule
  groups : d.slot.groups path = .positional []

section Mode

variable {resolve : String → Option Nat} {name : String} {rules : List (Rule σ)}
  {mode : CompiledMode σ} (ok : CompiledMode.compile name rules resolve = .ok mode)
  (literal : ∀ a ∈ alternatives rules, a.source.isLiteral = true)

include ok literal

theorem exists_rows_of_literal : ∃ rows : List (Row σ), Separate mode rules rows ∧
    (∀ r ∈ rows, r.alternative.source.isLiteral = true) ∧
    ∀ r ∈ rows, r.entry.Follows resolve r.alternative.rule := by
  obtain ⟨rows, compiled⟩ := compile_rows ok
  have each : ∀ r ∈ rows, r.alternative.source.isLiteral = true := by
    intro r member
    apply literal
    rw [← compiled.alternatives_eq]
    exact List.mem_map_of_mem member
  refine ⟨rows, compiled.separate fun r member => ?_, each, fun r => compiled.follows ok⟩
  exact r.not_endsInComment (Row.turnsVerbose_of_literal (each r (List.mem_of_mem_dropLast member)))

theorem first?_of_walk?_none {s : Spot} (none : walk? rules s = none) :
    mode.pattern.first? s = Option.none := by
  obtain ⟨rows, separate, each, -⟩ := exists_rows_of_literal ok literal
  apply separate.first?_eq_none
  intro r member
  rw [walk?_eq, ← separate.alternatives_eq, List.findSome?_map, List.findSome?_eq_none_iff] at none
  rw [Row.first?_of_literal (each r member), ← Alternative.map_walk?]
  rw [show r.alternative.walk? s = Option.none from none r member]
  rfl

theorem findsLeaf_of_walk? {s stop : Spot} {leaf : Leaf σ}
    (found : walk? rules s = some (leaf, stop)) :
    ∃ path d, FindsLeaf resolve mode s leaf stop path d := by
  obtain ⟨rows, separate, each, follows⟩ := exists_rows_of_literal ok literal
  rw [walk?_eq, ← separate.alternatives_eq, List.findSome?_map] at found
  obtain ⟨before, r, after, order, here, earlier⟩ := List.findSome?_eq_some_iff.1 found
  have inRows : r ∈ rows := order ▸ List.mem_append_right _ List.mem_cons_self
  have inFront {b : Row σ} (member : b ∈ before) : b ∈ rows :=
    order ▸ List.mem_append_left _ member
  have matched : (r.branch.pattern .multiLineCrlf).first? s =
      some ((Path.start s).moveTo stop) := by
    rw [Row.first?_of_literal (each r inRows), ← Alternative.map_walk?]
    rw [show r.alternative.walk? s = some (leaf, stop) from here]
    rfl
  have unmatched : ∀ b ∈ before, (b.branch.pattern .multiLineCrlf).first? s = none := by
    intro b member
    rw [Row.first?_of_literal (each b (inFront member)), ← Alternative.map_walk?]
    rw [show b.alternative.walk? s = none from earlier b member]
    rfl
  have kept : ∀ b ∈ before, b.alternative.KeepsGroups := fun b member =>
    Row.keepsGroups_of_literal (each b (inFront member))
  have dispatched := dispatch?_wrapMatch (s := s) separate.toCompiled order
    ((Path.start s).moveTo stop)
  rw [if_pos kept] at dispatched
  obtain ⟨own, leads⟩ := Alternative.walk?_cases here
  refine ⟨_, _, ⟨separate.first?_eq order unmatched matched, dispatched⟩, rfl, leads.upTo_eq, ?_,
    ?_, ?_⟩
  · rw [own]
  · rw [own]
    exact follows r inRows
  · rw [Row.slot, Row.groups_of_literal (each r inRows)]
    rfl

end Mode

end ModalLexer
