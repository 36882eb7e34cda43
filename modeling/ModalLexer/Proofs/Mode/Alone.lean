import ModalLexer.Proofs.Mode.Layout
import ModalLexer.Proofs.Tree.Choices

/-! # Variants by themselves

Each variant of a mode could be matched by itself, with nothing around it.  `firstMatch?` tries
the variants one after the other; it is what a mode should come to that matches them all at once
(`CompiledMode.report?`). -/
set_option autoImplicit false
namespace ModalLexer

open Reading

/-- What is known of a match: the rule and the variant that fired, the matched stretch of the
text, and the groups of the variant. -/
structure Report where
  kind : String
  variant : Nat
  extent : Extent
  groups : Groups

variable {σ : Type}

namespace Alternative

/-- The fragment of a variant, at the edge of a word if it must end there. -/
def text? (a : Alternative σ) : Option (List Char) :=
  a.source.fragment?.map fun fragment =>
    if a.rule.options.wordBound then "(?:".toList ++ fragment ++ ")\\b".toList else fragment

/-- What the variant means by itself. -/
def pattern? (a : Alternative σ) : Option Pattern := a.text?.bind (Pattern.read? .multiLineCrlf)

def report? (a : Alternative σ) (s : Spot) : Option Report :=
  a.pattern?.bind fun own =>
    (own.first? s).map fun path =>
      ⟨a.rule.name, a.variant, ⟨s, path.spot⟩, (Slot.ofGroups 0 own.groups).groups path⟩

def turnsVerbose (a : Alternative σ) : Bool :=
  (a.source.fragment?.bind lexemes?).any (·.any Lexeme.turnsVerbose)

def EndsInComment (a : Alternative σ) : Prop :=
  ∃ text ∈ a.source.fragment?, Reading.EndsInComment text

instance (a : Alternative σ) : Decidable a.EndsInComment :=
  inferInstanceAs (Decidable (∃ text ∈ a.source.fragment?, Reading.EndsInComment text))

/-- The number of capture groups that are written in the fragment. -/
def captures? (a : Alternative σ) : Option Nat :=
  (a.source.fragment?.bind lexemes?).map captures

/-- The variant as it stands in the joined pattern. -/
def written? (a : Alternative σ) : Option (List Char) :=
  a.source.fragment?.map (CompiledMode.wrap a.rule.options.wordBound)

def slotWidth? (a : Alternative σ) (engine : Engine := Pattern.read?) : Option Nat :=
  (a.source.fragment?.bind (engine .standard)).map fun p => (Slot.ofGroups 0 p.groups).width

/-- Whether the slot has room for all groups that are written in the fragment.  It has none for
groups at the end of the fragment that stand in a repetition of zero rounds. -/
def KeepsGroups (a : Alternative σ) : Prop := a.slotWidth? = a.captures?.map (· + 1)

instance (a : Alternative σ) : Decidable a.KeepsGroups :=
  inferInstanceAs (Decidable (a.slotWidth? = a.captures?.map (· + 1)))

end Alternative

def writtenFrom (as : List (Alternative σ)) : List Char := joinBars (as.filterMap (·.written?))

/-- The match of the first variant that matches by itself at a place. -/
def firstMatch? (rules : List (Rule σ)) (s : Spot) : Option Report :=
  (alternatives rules).findSome? (·.report? s)

/-- The variants that come before the first one that matches at a place. -/
def passedOver (rules : List (Rule σ)) (s : Spot) : List (Alternative σ) :=
  (alternatives rules).takeWhile fun a => (a.report? s).isNone

def CompiledMode.report? (mode : CompiledMode σ) (s : Spot) : Option Report :=
  (mode.pattern.first? s).bind fun path =>
    (CompiledMode.dispatch? path mode.entries).map fun d =>
      ⟨d.entry.kind, d.variant, d.extent, d.slot.groups path⟩

theorem filterMap_eq_map_of_eq_some {α β γ : Type} {f : α → Option γ} {g : β → α} {h : β → γ}
    (each : ∀ b, f (g b) = some (h b)) (bs : List β) :
    (bs.map g).filterMap f = bs.map h := by
  induction bs with
  | nil => rfl
  | cons b bs ih => rw [List.map_cons, List.filterMap_cons_some (each b), ih, List.map_cons]

/-! ## Reading a branch by itself -/

namespace Branch

variable (b : Branch)

def ownText : List Char :=
  if b.wordBound then "(?:".toList ++ b.fragment.text ++ ")\\b".toList else b.fragment.text

def ownLexemes : List Lexeme :=
  if b.wordBound then
    .opening (.plain []) :: (b.fragment.lexemes ++ [.closing, .atom (.assertion (.word .boundary))])
  else b.fragment.lexemes

theorem lexemes_eq : b.lexemes = .opening (.capture none) :: (b.ownLexemes ++ [.closing]) := by
  obtain ⟨wordBound, fragment⟩ := b
  cases wordBound <;> simp [lexemes, openingLexemes, closingLexemes, ownLexemes]

theorem lexemes?_ownText (clean : ¬ Reading.EndsInComment b.fragment.text) :
    lexemes? b.ownText = some b.ownLexemes := by
  obtain ⟨wordBound, fragment⟩ := b
  cases wordBound with
  | false => exact fragment.lexed
  | true =>
      obtain ⟨here, through⟩ := fragment.readsThrough clean
      obtain ⟨mid, inner, place⟩ := through [false] ")\\b".toList ⟨_, Or.inl rfl⟩
      have opened : Reads ⟨false, []⟩ ("(?:".toList ++ (fragment.text ++ ")\\b".toList))
          [.opening (.plain [])] ⟨false, [false]⟩ (fragment.text ++ ")\\b".toList) :=
        .step rfl rfl (.done _ _)
      have closed : Reads ⟨here, [false]⟩ mid [.closing, .atom (.assertion (.word .boundary))]
          ⟨false, []⟩ [] := by
        refine Reads.next "\\b".toList ?_ rfl ?_
        · rw [place]
          rfl
        · exact .step rfl rfl (.done _ _)
      refine lexemes?_eq_some_iff.2 ⟨⟨false, []⟩, [], ?_, rfl⟩
      have whole := opened.append (inner.append closed)
      rw [← List.append_assoc] at whole
      exact whole

theorem ofLexemes?_own : Tree.ofLexemes? b.ownLexemes = some b.own := by
  obtain ⟨wordBound, fragment⟩ := b
  cases wordBound with
  | false => exact fragment.built
  | true =>
      obtain ⟨frame, ran, same⟩ := Tree.ofLexemes?_eq_some_iff.1 fragment.built
      have inner := Builder.run?_inside ran [(.plain [], Builder.fresh.frame)]
      refine Tree.ofLexemes?_eq_some_iff.2 ⟨⟨[], [.atom (.assertion (.word .boundary)),
        .group (.plain []) fragment.tree]⟩, ?_, rfl⟩
      change Builder.run? (Builder.fresh.inside [(.plain [], Builder.fresh.frame)])
        (fragment.lexemes ++ [_, _]) = _
      rw [Builder.run?_append, inner, ← same]
      rfl

theorem groups_own (n : Nat) : b.own.groups n = b.fragment.tree.groups n := by
  obtain ⟨wordBound, fragment⟩ := b
  cases wordBound with
  | false => rfl
  | true => exact List.append_nil _

end Branch

theorem Branch.depth_tree_le {bs : List Branch} {b : Branch} (member : b ∈ bs) :
    b.tree.depth ≤ (joinedTree bs).depth := by
  induction bs with
  | nil => cases member
  | cons c bs ih =>
      cases bs with
      | nil => rw [List.mem_singleton.1 member]; rfl
      | cons d bs =>
          have both := c.tree.le_depth_choice (joinedTree (d :: bs))
          rcases List.mem_cons.1 member with rfl | later
          · exact both.1
          · exact (ih later).trans both.2

theorem Branch.sublist_joinedLexemes {bs : List Branch} {b : Branch} (member : b ∈ bs) :
    b.ownLexemes.Sublist (joinedLexemes bs) := by
  have wrapper : b.ownLexemes.Sublist b.lexemes := by
    rw [b.lexemes_eq]
    exact (List.sublist_append_left _ _).cons _
  refine wrapper.trans ?_
  induction bs with
  | nil => cases member
  | cons c bs ih =>
      cases bs with
      | nil => rw [List.mem_singleton.1 member]; exact List.Sublist.refl _
      | cons d bs =>
          rcases List.mem_cons.1 member with rfl | later
          · exact List.sublist_append_left _ _
          · exact ((ih later).cons _).trans (List.sublist_append_right _ _)

/-- A branch is read by itself if its groups have different names and it is not nested too deep. -/
theorem Branch.read?_own {flags : Flags} {b : Branch} {p : Pattern}
    (clean : ¬ Reading.EndsInComment b.fragment.text)
    (distinct : (Tree.groupNames b.ownLexemes).Nodup) (shallow : b.own.depth ≤ Tree.deepest)
    (meant : b.own.meaning? flags = some p) : Pattern.read? flags b.ownText = some p := by
  let f : Fragment := ⟨b.ownText, b.ownLexemes, b.own, b.lexemes?_ownText clean, b.ofLexemes?_own⟩
  exact Option.bind_eq_some_iff.2 ⟨b.own, f.read? distinct shallow, meant⟩

/-- If a joined pattern can be read, so can each branch by itself, with the same meaning. -/
theorem Branch.read?_ownText {bs : List Branch} {flags : Flags} {b : Branch}
    (clean : ¬ Reading.EndsInComment b.fragment.text) (member : b ∈ bs)
    (distinct : (Tree.groupNames (joinedLexemes bs)).Nodup)
    (shallow : (joinedTree bs).depth ≤ Tree.deepest)
    (meant : b.own.meaning? flags = some (b.pattern flags)) :
    Pattern.read? flags b.ownText = some (b.pattern flags) :=
  Branch.read?_own clean (distinct.sublist ((Branch.sublist_joinedLexemes member).filterMap _))
    ((Nat.le_succ _).trans ((Branch.depth_tree_le member).trans shallow)) meant

/-! ## Variants of a mode that compiled -/

namespace Row

variable (r : Row σ)

theorem text?_eq : r.alternative.text? = some r.branch.ownText := by
  rw [Alternative.text?, r.source_eq]
  rfl

theorem written?_eq : r.alternative.written? = some r.branch.text := by
  rw [Alternative.written?, r.source_eq]
  rfl

theorem slotWidth?_eq : r.alternative.slotWidth? = some r.width := by
  rw [Alternative.slotWidth?, r.source_eq, Option.bind_some, r.read]
  rfl

theorem filterMap_slotWidth?_rows (rows : List (Row σ)) :
    (rows.map Row.alternative).filterMap (·.slotWidth?) = rows.map Row.width := by
  apply filterMap_eq_map_of_eq_some
  exact slotWidth?_eq

theorem not_endsInComment (plain : r.alternative.turnsVerbose = false) :
    ¬ Reading.EndsInComment r.branch.fragment.text := by
  apply r.fragment.not_endsInComment
  intro l member
  simp only [Alternative.turnsVerbose, r.source_eq, Option.bind_some, r.fragment.lexed,
    Option.any_some, List.any_eq_false] at plain
  exact Bool.eq_false_iff.2 (plain l member)

end Row

/-- What is known of a mode that compiled and in which no fragment ends in a comment: each variant
means something by itself, with the groups that were laid out, and the mode means the choice of the
variants in their wrappers. -/
structure Separate (mode : CompiledMode σ) (rules : List (Rule σ)) (rows : List (Row σ)) : Prop
    extends Compiled mode rules rows where
  clean : ∀ r ∈ rows, ¬ Reading.EndsInComment r.branch.fragment.text
  means : ∀ r ∈ rows, r.alternative.pattern? = some (r.branch.pattern .multiLineCrlf)
  groups_eq : ∀ r ∈ rows, (r.branch.pattern .multiLineCrlf).groups = r.pattern.groups
  pattern_eq : mode.pattern = .foldChoice (wrapped .multiLineCrlf 1 (rows.map Row.branch))

/-- It is enough that no fragment but perhaps the last ends in a comment. -/
theorem Compiled.separate {mode : CompiledMode σ} {rules : List (Rule σ)} {rows : List (Row σ)}
    (compiled : Compiled mode rules rows)
    (clean : ∀ r ∈ rows.dropLast, ¬ Reading.EndsInComment r.branch.fragment.text) :
    Separate mode rules rows := by
  have nonempty : rows.map Row.branch ≠ [] := fun empty =>
    compiled.nonempty (List.map_eq_nil_iff.1 empty)
  obtain ⟨tree, treeRead, meant⟩ := Option.bind_eq_some_iff.1 compiled.read
  have cleanBranches : ∀ b ∈ (rows.map Row.branch).dropLast,
      ¬ Reading.EndsInComment b.fragment.text := by
    intro b member
    rw [← List.map_dropLast] at member
    obtain ⟨r, inRows, rfl⟩ := List.mem_map.1 member
    exact clean r inRows
  obtain ⟨allClean, rfl, distinct, shallow⟩ := joined_read? nonempty cleanBranches treeRead
  obtain ⟨each, whole⟩ := joined_meaning nonempty meant
  have inBranches {r : Row σ} (member : r ∈ rows) : r.branch ∈ rows.map Row.branch :=
    List.mem_map_of_mem member
  refine ⟨compiled, fun r member => allClean _ (inBranches member), ?_,
    ?_, whole⟩
  · intro r member
    have own := each r.branch (inBranches member)
    rw [Alternative.pattern?, r.text?_eq]
    exact Branch.read?_ownText (allClean _ (inBranches member)) (inBranches member) distinct
      shallow own
  · intro r member
    rw [Tree.groups_meaning? (each r.branch (inBranches member)), Branch.groups_own, r.groups_eq]
    rfl

/-- A fragment that does not turn verbose mode on ends in no comment. -/
theorem Compiled.separate_of_plain {mode : CompiledMode σ} {rules : List (Rule σ)}
    {rows : List (Row σ)} (compiled : Compiled mode rules rows)
    (plain : ∀ a ∈ alternatives rules, a.turnsVerbose = false) : Separate mode rules rows := by
  apply compiled.separate
  intro r member
  apply r.not_endsInComment
  apply plain
  rw [← compiled.alternatives_eq]
  exact List.mem_map_of_mem (List.mem_of_mem_dropLast member)

end ModalLexer
