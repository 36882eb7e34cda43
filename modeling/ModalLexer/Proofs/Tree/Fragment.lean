import ModalLexer.Proofs.Tree.Builder

/-! # Fragments

A fragment is a written pattern that can be read by itself.  It either ends in a comment or reads
alike inside any groups (`Fragment.reads`); without the verbose flag it does not end in one. -/
set_option autoImplicit false
namespace ModalLexer

namespace Reading

/-- Whether a text leaves a comment open, so that a bar behind it is not seen. -/
def EndsInComment (text : List Char) : Prop := lexemes? (text ++ ['|']) = lexemes? text

instance (text : List Char) : Decidable (EndsInComment text) :=
  inferInstanceAs (Decidable (lexemes? (text ++ ['|']) = lexemes? text))

theorem endsPattern_bar : EndsPattern ['|'] := ⟨[], Or.inr rfl⟩

end Reading

open Reading

/-- A written pattern that can be read, with its lexemes and its tree. -/
structure Fragment where
  text : List Char
  lexemes : List Lexeme
  tree : Tree
  lexed : lexemes? text = some lexemes
  built : Tree.ofLexemes? lexemes = some tree

theorem Fragment.of_read? {text : List Char} {tree : Tree} (read : Tree.read? text = some tree) :
    ∃ f : Fragment, f.text = text ∧ f.tree = tree ∧ (Tree.groupNames f.lexemes).Nodup ∧
      tree.depth ≤ Tree.deepest := by
  obtain ⟨lexemes, lexed, read⟩ := Option.bind_eq_some_iff.1 read
  split at read
  · next distinct =>
      obtain ⟨tree', built, read⟩ := Option.bind_eq_some_iff.1 read
      split at read
      · next shallow =>
          obtain rfl := Option.some.inj read
          exact ⟨⟨text, lexemes, tree', lexed, built⟩, rfl, rfl, distinct, shallow⟩
      · cases read
  · cases read

theorem Fragment.read? (f : Fragment) (distinct : (Tree.groupNames f.lexemes).Nodup)
    (shallow : f.tree.depth ≤ Tree.deepest) : Tree.read? f.text = some f.tree := by
  simp [Tree.read?, f.lexed, f.built, distinct, shallow]

namespace Fragment

variable (f : Fragment)

theorem ext_of_text {g : Fragment} (same : f.text = g.text) : f = g := by
  obtain ⟨text, ls, tree, lexed, built⟩ := f
  obtain ⟨text', ls', tree', lexed', built'⟩ := g
  dsimp only at same
  subst same
  obtain rfl := Option.some.inj (lexed.symm.trans lexed')
  obtain rfl := Option.some.inj (built.symm.trans built')
  rfl

theorem reads_alone : ∃ here left, Reads ⟨false, []⟩ f.text f.lexemes ⟨here, []⟩ left ∧
    Verbosity.place ⟨here, []⟩ left = [] := by
  obtain ⟨⟨here, outside⟩, left, reads, blank⟩ := lexemes?_eq_some_iff.1 f.lexed
  obtain ⟨frame, ran, -⟩ := Tree.ofLexemes?_eq_some_iff.1 f.built
  have depth := reads.depth_eq ran rfl
  obtain rfl : outside = [] := List.length_eq_zero_iff.1 depth.symm
  exact ⟨here, left, reads, blank⟩

/-- A fragment reads alike inside groups, or it ends in a comment. -/
theorem reads : ∃ here,
    (¬ EndsInComment f.text ∧ ∀ outer, ReadsThrough ⟨false, outer⟩ f.text f.lexemes ⟨here, outer⟩) ∨
      (EndsInComment f.text ∧
        ∀ outer, Swallows ⟨false, outer⟩ f.text f.lexemes ⟨here, outer⟩) := by
  obtain ⟨here, left, alone, blank⟩ := f.reads_alone
  refine ⟨here, (alone.through_or_swallows blank rfl).imp (fun through => ⟨?_, through⟩)
    fun swallows => ⟨?_, swallows⟩⟩
  · intro comment
    obtain ⟨mid, onward, place⟩ := through [] ['|'] endsPattern_bar
    have bar : Reads ⟨here, []⟩ mid [.bar] ⟨here, []⟩ [] := by
      refine Reads.next [] ?_ rfl (.done _ _)
      rw [place]
      rfl
    have longer := lexemes?_eq_some_iff.2
      ⟨_, _, onward.append bar, List.suffix_nil.1 (skipBlank_suffix _ _)⟩
    rw [EndsInComment, f.lexed, longer, Option.some.injEq] at comment
    exact absurd (congrArg List.length comment) (by simp)
  · obtain ⟨mid, onward, place⟩ := (swallows []).absorbs ['|'] endsPattern_bar rfl
    exact (lexemes?_eq_some_iff.2 ⟨_, _, onward, place⟩).trans f.lexed.symm

theorem readsThrough (clean : ¬ EndsInComment f.text) :
    ∃ here, ∀ outer, ReadsThrough ⟨false, outer⟩ f.text f.lexemes ⟨here, outer⟩ := by
  obtain ⟨here, ⟨-, through⟩ | ⟨comment, -⟩⟩ := f.reads
  · exact ⟨here, through⟩
  · exact absurd comment clean

theorem swallows (comment : EndsInComment f.text) :
    ∃ here, ∀ outer, Swallows ⟨false, outer⟩ f.text f.lexemes ⟨here, outer⟩ := by
  obtain ⟨here, ⟨clean, -⟩ | ⟨-, swallows⟩⟩ := f.reads
  · exact absurd comment clean
  · exact ⟨here, swallows⟩

/-- A fragment does not begin with a question mark, which would repeat nothing. -/
theorem head?_ne : f.text.head? ≠ some '?' := by
  intro query
  obtain ⟨rest, same⟩ := List.head?_eq_some_iff.1 query
  obtain ⟨here, left, alone, blank⟩ := f.reads_alone
  obtain ⟨frame, ran, -⟩ := Tree.ofLexemes?_eq_some_iff.1 f.built
  rw [same] at alone
  cases lexemes_eq : f.lexemes with
  | nil =>
      rw [lexemes_eq] at alone
      cases alone
      cases blank
  | cons l ls =>
      rw [lexemes_eq] at alone ran
      cases alone with
      | step first _ _ =>
          have repetition : some (readGreed 0 (some 1) rest) = some (l, _) := first
          have opened : l = (readGreed 0 (some 1) rest).1 := by
            rw [Option.some.inj repetition]
          have refused : Builder.fresh.step? l = none := by
            rw [opened]
            unfold readGreed
            split <;> rfl
          rw [Builder.run?_cons, refused] at ran
          cases ran

end Fragment

/-! ## The verbose flag -/

def Lexeme.turnsVerbose : Lexeme → Bool
  | .opening (.plain change) => change.contains (.verbose, true)
  | .flags change => change.contains (.verbose, true)
  | _ => false

namespace Reading

def Verbosity.IsOff (v : Verbosity) : Prop := v.here = false ∧ ∀ before ∈ v.outside, before = false

theorem verboseAfter_eq_false {change : FlagChange} (never : (Flag.verbose, true) ∉ change) :
    verboseAfter change false = false := by
  unfold verboseAfter
  split
  · next flag on found =>
      have named : flag = Flag.verbose := by simpa using List.find?_some found
      subst named
      cases on with
      | true => exact absurd (List.mem_of_find?_eq_some found) never
      | false => rfl
  · rfl

theorem Verbosity.IsOff.after? {v w : Verbosity} {l : Lexeme} (off : v.IsOff)
    (after : v.after? l = some w) (plain : l.turnsVerbose = false) : w.IsOff := by
  obtain ⟨here, outside⟩ := v
  obtain ⟨rfl, outsideOff⟩ : here = false ∧ ∀ before ∈ outside, before = false := off
  have opened : ∀ before ∈ false :: outside, before = false := by
    simpa using outsideOff
  cases l with
  | opening grouping =>
      cases grouping with
      | capture name =>
          obtain rfl := Option.some.inj after
          exact ⟨rfl, opened⟩
      | plain change =>
          obtain rfl := Option.some.inj after
          exact ⟨verboseAfter_eq_false (by simpa [Lexeme.turnsVerbose] using plain), opened⟩
  | flags change =>
      obtain rfl := Option.some.inj after
      exact ⟨verboseAfter_eq_false (by simpa [Lexeme.turnsVerbose] using plain), outsideOff⟩
  | closing =>
      cases outside with
      | nil => cases after
      | cons before outside =>
          obtain rfl := Option.some.inj after
          exact ⟨outsideOff before List.mem_cons_self,
            fun outer member => outsideOff outer (List.mem_cons_of_mem _ member)⟩
  | atom a => obtain rfl := Option.some.inj after; exact ⟨rfl, outsideOff⟩
  | bar => obtain rfl := Option.some.inj after; exact ⟨rfl, outsideOff⟩
  | repetition least most greedy => obtain rfl := Option.some.inj after; exact ⟨rfl, outsideOff⟩

theorem Reads.isOff {v w : Verbosity} {cs left : List Char} {ls : List Lexeme}
    (reads : Reads v cs ls w left) (off : v.IsOff)
    (plain : ∀ l ∈ ls, l.turnsVerbose = false) : w.IsOff := by
  induction reads with
  | done => exact off
  | step first after rest ih =>
      exact ih (off.after? after (plain _ List.mem_cons_self))
        fun l member => plain l (List.mem_cons_of_mem _ member)

end Reading

/-- Without the verbose flag there are no comments. -/
theorem Fragment.not_endsInComment (f : Fragment)
    (plain : ∀ l ∈ f.lexemes, l.turnsVerbose = false) : ¬ EndsInComment f.text := by
  intro comment
  obtain ⟨here, swallows⟩ := f.swallows comment
  obtain ⟨front, back, w, mid, whole, reads, verbose⟩ := (swallows []).verbose
  have off := reads.isOff ⟨rfl, nofun⟩ fun l member =>
    plain l (whole ▸ List.mem_append_left back member)
  exact absurd (off.1.symm.trans verbose) Bool.false_ne_true

end ModalLexer
