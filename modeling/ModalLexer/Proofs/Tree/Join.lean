import ModalLexer.Mode.Compiled
import ModalLexer.Proofs.Tree.Fragment

/-! # Reading the joined pattern

The pattern of a mode wraps each fragment in a capture group and joins the groups by bars.  If no
fragment ends in a comment, its lexemes are those of the fragments, each between the signs put
around it, and its tree is the choice of the wrapped trees. -/
set_option autoImplicit false
namespace ModalLexer

open Reading

/-- A fragment as a branch of a joined pattern, and whether it must end at the edge of a word. -/
structure Branch where
  wordBound : Bool
  fragment : Fragment

namespace Branch

variable (b : Branch)

def text : List Char := CompiledMode.wrap b.wordBound b.fragment.text

def opening : List Char := if b.wordBound then "((?:".toList else ['(']

def closing : List Char := if b.wordBound then ")\\b)".toList else [')']

theorem text_eq : b.text = b.opening ++ (b.fragment.text ++ b.closing) := by
  obtain ⟨wordBound, fragment⟩ := b
  cases wordBound <;> simp [text, CompiledMode.wrap, opening, closing]

def openingLexemes : List Lexeme :=
  .opening (.capture none) :: if b.wordBound then [.opening (.plain [])] else []

def closingLexemes : List Lexeme :=
  if b.wordBound then [.closing, .atom (.assertion (.word .boundary)), .closing] else [.closing]

def lexemes : List Lexeme := b.openingLexemes ++ (b.fragment.lexemes ++ b.closingLexemes)

def outside (outer : List Bool) : List Bool :=
  if b.wordBound then false :: false :: outer else false :: outer

/-- The branch by itself: the fragment, at the edge of a word if it must end there. -/
def own : Tree :=
  if b.wordBound then
    .sequence (.group (.plain []) b.fragment.tree) (.atom (.assertion (.word .boundary)))
  else b.fragment.tree

def tree : Tree := .group (.capture none) b.own

theorem captures_lexemes : captures b.lexemes = captures b.fragment.lexemes + 1 := by
  obtain ⟨wordBound, fragment⟩ := b
  cases wordBound <;>
    simp [lexemes, openingLexemes, closingLexemes, captures_cons, Lexeme.isCapture]

theorem closing_ends (behind : List Char) : EndsPattern (b.closing ++ behind) := by
  unfold closing
  split
  · exact ⟨_, Or.inl rfl⟩
  · exact ⟨_, Or.inl rfl⟩

theorem reads_opening (outer : List Bool) {more : List Char} (query : more.head? ≠ some '?') :
    Reads ⟨false, outer⟩ (b.opening ++ more) b.openingLexemes ⟨false, b.outside outer⟩ more := by
  obtain ⟨wordBound, fragment⟩ := b
  cases wordBound with
  | true =>
      refine Reads.next ("(?:".toList ++ more) rfl rfl ?_
      exact Reads.next more rfl rfl (.done _ _)
  | false =>
      have capture : readLexeme? false ('(' :: more) = some (.opening (.capture none), more) :=
        readOpening?_capture fun rest (same : more = '?' :: rest) => query (by rw [same]; rfl)
      exact .step capture rfl (.done _ _)

theorem reads_closing (here : Bool) (outer : List Bool) {mid behind : List Char}
    (place : Verbosity.place ⟨here, b.outside outer⟩ mid = b.closing ++ behind) :
    Reads ⟨here, b.outside outer⟩ mid b.closingLexemes ⟨false, outer⟩ behind := by
  obtain ⟨wordBound, fragment⟩ := b
  cases wordBound with
  | true =>
      refine Reads.next ("\\b)".toList ++ behind) ?_ rfl ?_
      · rw [place]
        rfl
      · refine Reads.next (')' :: behind) rfl rfl ?_
        exact Reads.next behind rfl rfl (.done _ _)
  | false =>
      refine Reads.next behind ?_ rfl (.done _ _)
      rw [place]
      rfl

theorem head?_ne (behind : List Char) :
    (b.fragment.text ++ (b.closing ++ behind)).head? ≠ some '?' := by
  rw [List.head?_append]
  cases begun : b.fragment.text.head? with
  | none =>
      obtain ⟨rest, same | same⟩ := b.closing_ends behind
      · simp [same]
      · simp [same]
  | some c =>
      intro query
      exact b.fragment.head?_ne (begun.trans query)

/-- A branch whose fragment does not end in a comment reads alike wherever it stands. -/
theorem reads (clean : ¬ EndsInComment b.fragment.text) (outer : List Bool) (behind : List Char) :
    Reads ⟨false, outer⟩ (b.text ++ behind) b.lexemes ⟨false, outer⟩ behind := by
  obtain ⟨here, through⟩ := b.fragment.readsThrough clean
  obtain ⟨mid, inner, place⟩ :=
    through (b.outside outer) (b.closing ++ behind) (b.closing_ends behind)
  rw [text_eq, List.append_assoc, List.append_assoc]
  exact (b.reads_opening outer (b.head?_ne behind)).append
    (inner.append (b.reads_closing here outer place))

theorem run?_lexemes (builder : Builder) :
    builder.run? b.lexemes = some { builder with frame := builder.frame.push b.tree } := by
  obtain ⟨wordBound, fragment⟩ := b
  obtain ⟨frame, ran, same⟩ := Tree.ofLexemes?_eq_some_iff.1 fragment.built
  have inner (outer : List (Grouping × Frame)) :
      (Builder.mk .fresh outer).run? fragment.lexemes = some ⟨frame, outer⟩ :=
    Builder.run?_inside ran outer
  cases wordBound with
  | true =>
      have opened : builder.run? [.opening (.capture none), .opening (.plain [])] =
          some ⟨.fresh, (.plain [], .fresh) :: (.capture none, builder.frame) :: builder.outside⟩ :=
        rfl
      change builder.run? ([_, _] ++ (fragment.lexemes ++ [_, _, _])) = _
      rw [Builder.run?_append, opened, Option.bind_some, Builder.run?_append, inner,
        Option.bind_some, tree, own, ← same]
      rfl
  | false =>
      have opened : builder.run? [.opening (.capture none)] =
          some ⟨.fresh, (.capture none, builder.frame) :: builder.outside⟩ := rfl
      change builder.run? ([_] ++ (fragment.lexemes ++ [_])) = _
      rw [Builder.run?_append, opened, Option.bind_some, Builder.run?_append, inner,
        Option.bind_some, tree, own, ← same]
      rfl

end Branch

/-! ## All branches -/

def joined (bs : List Branch) : List Char := joinBars (bs.map Branch.text)

@[simp] theorem joined_singleton (b : Branch) : joined [b] = b.text := rfl

@[simp] theorem joined_cons_cons (b c : Branch) (bs : List Branch) :
    joined (b :: c :: bs) = b.text ++ '|' :: joined (c :: bs) := rfl

def joinedLexemes : List Branch → List Lexeme
  | [] => []
  | [b] => b.lexemes
  | b :: rest => b.lexemes ++ .bar :: joinedLexemes rest

def joinedTree : List Branch → Tree
  | [] => .nothing
  | [b] => b.tree
  | b :: rest => .choice b.tree (joinedTree rest)

def leadingLexemes (bs : List Branch) : List Lexeme := bs.flatMap fun b => b.lexemes ++ [.bar]

theorem captures_leadingLexemes (bs : List Branch) : captures (leadingLexemes bs) =
    (bs.map fun b => captures b.fragment.lexemes + 1).sum := by
  induction bs with
  | nil => rfl
  | cons b bs ih =>
      have unfolded : leadingLexemes (b :: bs) = (b.lexemes ++ [.bar]) ++ leadingLexemes bs := rfl
      rw [unfolded, captures_append, ih, captures_append, b.captures_lexemes]
      simp [captures_cons, Lexeme.isCapture]

theorem reads_leading (outer : List Bool) (before : List Branch) (b : Branch) (after : List Branch)
    (clean : ∀ c ∈ before, ¬ EndsInComment c.fragment.text) :
    Reads ⟨false, outer⟩ (joined (before ++ b :: after)) (leadingLexemes before) ⟨false, outer⟩
      (joined (b :: after)) := by
  induction before with
  | nil => exact .done _ _
  | cons c before ih =>
      have first : joined (c :: before ++ b :: after) =
          c.text ++ '|' :: joined (before ++ b :: after) := by
        cases before <;> rfl
      have bar : Reads ⟨false, outer⟩ ('|' :: joined (before ++ b :: after)) [.bar] ⟨false, outer⟩
          (joined (before ++ b :: after)) := .step rfl rfl (.done _ _)
      rw [first]
      exact ((c.reads (clean c List.mem_cons_self) outer _).append bar).append
        (ih fun d member => clean d (List.mem_cons_of_mem c member))

theorem joinedLexemes_append (before : List Branch) (b : Branch) :
    joinedLexemes (before ++ [b]) = leadingLexemes before ++ b.lexemes := by
  induction before with
  | nil => rfl
  | cons c before ih =>
      have first : joinedLexemes (c :: before ++ [b]) =
          c.lexemes ++ .bar :: joinedLexemes (before ++ [b]) := by
        cases before <;> rfl
      rw [first, ih]
      simp [leadingLexemes]

theorem joined_lexed {bs : List Branch} (nonempty : bs ≠ [])
    (clean : ∀ b ∈ bs, ¬ EndsInComment b.fragment.text) :
    lexemes? (joined bs) = some (joinedLexemes bs) := by
  obtain ⟨before, b, rfl⟩ := (List.eq_nil_or_concat bs).resolve_left nonempty
  rw [List.concat_eq_append] at clean ⊢
  have leading := reads_leading [] before b [] fun c member =>
    clean c (List.mem_append_left _ member)
  have last := b.reads (clean b (List.mem_append_right _ List.mem_cons_self)) [] []
  rw [List.append_nil] at last
  rw [joinedLexemes_append]
  exact lexemes?_eq_some_iff.2 ⟨_, _, leading.append last, rfl⟩

theorem run?_joinedLexemes {bs : List Branch} (nonempty : bs ≠ []) (branches : List Tree)
    (outside : List (Grouping × Frame)) : ∃ frame,
      (Builder.mk ⟨branches, []⟩ outside).run? (joinedLexemes bs) = some ⟨frame, outside⟩ ∧
        frame.close = choiceOf (joinedTree bs) branches := by
  induction bs generalizing branches with
  | nil => exact absurd rfl nonempty
  | cons b bs ih =>
      cases bs with
      | nil => exact ⟨⟨branches, [b.tree]⟩, b.run?_lexemes _, rfl⟩
      | cons c bs =>
          obtain ⟨frame, ran, closed⟩ := ih (List.cons_ne_nil c bs) (b.tree :: branches)
          refine ⟨frame, ?_, closed⟩
          rw [joinedLexemes, Builder.run?_append, b.run?_lexemes, Option.bind_some,
            Builder.run?_cons]
          · exact ran
          · exact nofun

theorem joined_built {bs : List Branch} (nonempty : bs ≠ []) :
    Tree.ofLexemes? (joinedLexemes bs) = some (joinedTree bs) := by
  obtain ⟨frame, ran, closed⟩ := run?_joinedLexemes nonempty [] []
  exact Tree.ofLexemes?_eq_some_iff.2 ⟨frame, ran, closed⟩

/-! ## Comments that go on -/

theorem Branch.skipFrom_closing (b : Branch) (behind : List Char) :
    skipFrom true (b.closing ++ behind) = skipFrom true behind := by
  obtain ⟨wordBound, fragment⟩ := b
  cases wordBound <;> rfl

theorem Branch.outside_ne_nil (b : Branch) (outer : List Bool) : b.outside outer ≠ [] := by
  obtain ⟨wordBound, fragment⟩ := b
  cases wordBound <;> exact List.cons_ne_nil _ _

/-- A comment at the end of the last fragment swallows the sign that closes its wrapper, so that
there is no tree. -/
theorem last_not_endsInComment {before : List Branch} {b : Branch} {ls : List Lexeme} {tree : Tree}
    (clean : ∀ c ∈ before, ¬ EndsInComment c.fragment.text)
    (lexed : lexemes? (joined (before ++ [b])) = some ls)
    (built : Tree.ofLexemes? ls = some tree) : ¬ EndsInComment b.fragment.text := by
  intro comment
  obtain ⟨here, swallows⟩ := b.fragment.swallows comment
  have ended : skipFrom true b.closing = [] := by
    simpa [skipFrom] using b.skipFrom_closing []
  have ends := b.closing_ends []
  rw [List.append_nil] at ends
  obtain ⟨mid, inner, place⟩ := (swallows (b.outside [])).absorbs _ ends ended
  have query := b.head?_ne []
  rw [List.append_nil] at query
  have last := (b.reads_opening [] query).append inner
  rw [← b.text_eq] at last
  have whole := (reads_leading [] before b [] clean).append last
  obtain rfl := Option.some.inj (lexed.symm.trans (lexemes?_eq_some_iff.2 ⟨_, _, whole, place⟩))
  obtain ⟨frame, ran, -⟩ := Tree.ofLexemes?_eq_some_iff.1 built
  have depth := whole.depth_eq ran rfl
  exact b.outside_ne_nil [] (List.length_eq_zero_iff.1 depth.symm)

/-- If no fragment but perhaps the last ends in a comment, the joined pattern is read as the choice
of its branches. -/
theorem joined_read? {bs : List Branch} {tree : Tree} (nonempty : bs ≠ [])
    (clean : ∀ b ∈ bs.dropLast, ¬ EndsInComment b.fragment.text)
    (read : Tree.read? (joined bs) = some tree) :
    (∀ b ∈ bs, ¬ EndsInComment b.fragment.text) ∧ tree = joinedTree bs ∧
      (Tree.groupNames (joinedLexemes bs)).Nodup ∧ tree.depth ≤ Tree.deepest := by
  obtain ⟨⟨text, ls, tree', lexed, built⟩, rfl, rfl, distinct, shallow⟩ := Fragment.of_read? read
  have allClean : ∀ b ∈ bs, ¬ EndsInComment b.fragment.text := by
    obtain ⟨before, b, rfl⟩ := (List.eq_nil_or_concat bs).resolve_left nonempty
    rw [List.concat_eq_append] at lexed clean ⊢
    rw [List.dropLast_concat] at clean
    intro c member
    rcases List.mem_append.1 member with earlier | last
    · exact clean c earlier
    · rw [List.mem_singleton.1 last]
      exact last_not_endsInComment clean lexed built
  obtain rfl := Option.some.inj (lexed.symm.trans (joined_lexed nonempty allClean))
  obtain rfl := Option.some.inj (built.symm.trans (joined_built nonempty))
  exact ⟨allClean, rfl, distinct, shallow⟩

end ModalLexer
