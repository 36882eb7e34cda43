import ModalLexer.Proofs.Tree.Join

/-! # Where the capture groups of a pattern are opened

Capture groups are numbered by their opening parentheses.  In a joined pattern the groups of a
branch are opened where they are opened in its fragment (`opensGroup_inner`), provided that no
fragment before it ends in a comment; if one does, the parenthesis of the next wrapper is inside
the comment and opens no group at all (`not_opensGroup_of_comment`). -/
set_option autoImplicit false
namespace ModalLexer

open Reading

/-- The `n`-th capture group of a written pattern is opened by the sign with which `place` begins,
the text from there on. -/
def OpensGroup (text : List Char) (n : Nat) (place : List Char) : Prop :=
  ∃ ls w left l behind, Reads ⟨false, []⟩ text ls w left ∧ w.place left = place ∧
    readLexeme? w.here place = some (l, behind) ∧ l.isCapture ∧ captures ls + 1 = n

theorem OpensGroup.unique {text place : List Char} {m n : Nat} (one : OpensGroup text m place)
    (other : OpensGroup text n place) : m = n := by
  obtain ⟨ls, w, left, l, behind, reads, here, -, -, rfl⟩ := one
  obtain ⟨ls', w', left', l', behind', reads', here', -, -, rfl⟩ := other
  rw [(reads.eq_of_place reads' (here.trans here'.symm)).1]

theorem exists_capture {ls : List Lexeme} {k : Nat} (enough : k < captures ls) :
    ∃ front l back, ls = front ++ l :: back ∧ l.isCapture = true ∧ captures front = k := by
  induction ls generalizing k with
  | nil => cases enough
  | cons l ls ih =>
      rw [captures_cons] at enough
      by_cases capture : l.isCapture = true
      · cases k with
        | zero => exact ⟨[], l, ls, rfl, capture, rfl⟩
        | succ k =>
            rw [if_pos capture] at enough
            obtain ⟨front, l', back, rfl, opens, count⟩ := ih (Nat.lt_of_succ_lt_succ enough)
            exact ⟨l :: front, l', back, rfl, opens, by rw [captures_cons, if_pos capture, count]⟩
      · rw [if_neg capture] at enough
        obtain ⟨front, l', back, rfl, opens, count⟩ := ih enough
        exact ⟨l :: front, l', back, rfl, opens, by
          rw [captures_cons, if_neg capture, count, Nat.add_zero]⟩

/-- Each capture group of a fragment is opened somewhere in it, and not at its end. -/
theorem Fragment.opens (f : Fragment) {k : Nat} (enough : k < captures f.lexemes) :
    ∃ front w left l behind, Reads ⟨false, []⟩ f.text front w left ∧
      readLexeme? w.here (w.place left) = some (l, behind) ∧ behind ≠ [] ∧ l.isCapture = true ∧
      captures front = k := by
  obtain ⟨front, l, back, order, capture, count⟩ := exists_capture enough
  obtain ⟨here, left, alone, blank⟩ := f.reads_alone
  rw [order] at alone
  obtain ⟨w, mid, behind, after, reads, next, stepped, rest⟩ := alone.split
  refine ⟨front, w, mid, l, behind, reads, next, ?_, capture, count⟩
  rintro rfl
  obtain ⟨-, same⟩ := rest.eq_nil_of_nil
  subst same
  cases l with
  | opening grouping =>
      cases grouping with
      | capture name => cases stepped
      | plain change => cases capture
  | _ => cases capture

namespace Branch

variable (b : Branch)

def behind (after : List Branch) : List Char :=
  b.closing ++ match after with
    | [] => []
    | c :: rest => '|' :: joined (c :: rest)

theorem joined_cons (after : List Branch) :
    joined (b :: after) = b.opening ++ (b.fragment.text ++ b.behind after) := by
  cases after with
  | nil => simp [text_eq, behind]
  | cons c rest => simp [text_eq, behind]

theorem behind_ends (after : List Branch) : EndsPattern (b.behind after) := b.closing_ends _

theorem query_ne (after : List Branch) :
    (b.fragment.text ++ b.behind after).head? ≠ some '?' := b.head?_ne _

theorem captures_openingLexemes : captures b.openingLexemes = 1 := by
  obtain ⟨wordBound, fragment⟩ := b
  cases wordBound <;> rfl

end Branch

section Joined

variable {before : List Branch} {b : Branch} (after : List Branch)
  (clean : ∀ c ∈ before, ¬ EndsInComment c.fragment.text)

include clean

theorem opensGroup_wrapper : OpensGroup (joined (before ++ b :: after))
    (captures (leadingLexemes before) + 1) (joined (b :: after)) := by
  have leading := reads_leading [] before b after clean
  have opening := b.reads_opening [] (b.query_ne after)
  rw [← b.joined_cons] at opening
  cases opening with
  | step first _ _ => exact ⟨_, _, _, _, _, leading, rfl, first, rfl, rfl⟩

theorem reads_fragment : Reads ⟨false, []⟩ (joined (before ++ b :: after))
    (leadingLexemes before ++ b.openingLexemes) ⟨false, b.outside []⟩
    (b.fragment.text ++ b.behind after) := by
  have opening := b.reads_opening [] (b.query_ne after)
  rw [← b.joined_cons] at opening
  exact (reads_leading [] before b after clean).append opening

/-- A group inside a branch is opened where it is opened in the fragment by itself. -/
theorem opensGroup_inner {k : Nat} (enough : k < captures b.fragment.lexemes) :
    ∃ place, OpensGroup b.fragment.text (k + 1) place ∧
      OpensGroup (joined (before ++ b :: after)) (captures (leadingLexemes before) + 1 + (k + 1))
        (place ++ b.behind after) := by
  obtain ⟨front, w, left, l, behind, reads, next, more, capture, rfl⟩ := b.fragment.opens enough
  have placeMore : w.place left ≠ [] := by
    intro empty
    rw [empty] at next
    cases next
  obtain ⟨inside, place⟩ :=
    reads.append_of_place placeMore (b.outside []) (b.behind_ends after)
  have onward : readLexeme? w.here (w.place left ++ b.behind after) =
      some (l, behind ++ b.behind after) := by
    rcases readLexeme?_append next fun empty => absurd empty more with steady | ⟨empty, -⟩
    · exact steady _ (b.behind_ends after)
    · exact absurd empty more
  refine ⟨w.place left, ⟨_, _, _, _, _, reads, rfl, next, capture, rfl⟩,
    ⟨_, _, _, _, _, (reads_fragment after clean).append inside, place, onward, capture, ?_⟩⟩
  rw [captures_append, captures_append, b.captures_openingLexemes]
  omega

/-- A comment at the end of a fragment swallows the parenthesis of the next wrapper. -/
theorem not_opensGroup_of_comment {c : Branch} (comment : EndsInComment b.fragment.text) (n : Nat) :
    ¬ OpensGroup (joined (before ++ b :: c :: after)) n (joined (c :: after)) := by
  rintro ⟨ls, w, left, l, behind, reads, place, -, -, -⟩
  obtain ⟨here, swallows⟩ := b.fragment.swallows comment
  have start := reads_fragment (b := b) (c :: after) clean
  have shorter : (joined (c :: after)).length < (b.behind (c :: after)).length := by
    simp only [Branch.behind, List.length_append, List.length_cons]
    omega
  rcases start.compare reads with ⟨more, rfl, onward⟩ | ⟨more, -, onward⟩
  · rcases (swallows (b.outside [])).passes _ (b.behind_ends _) _ _ _ onward with longer | passed
    · rw [place] at longer
      omega
    · rw [place, Branch.behind, b.skipFrom_closing] at passed
      have begins : joined (c :: after) = '(' :: (joined (c :: after)).tail := by
        rw [c.joined_cons]
        obtain ⟨wordBound, fragment⟩ := c
        cases wordBound <;> rfl
      have inComment : skipFrom true ('|' :: joined (c :: after)) =
          skipFrom true (joined (c :: after)).tail := by
        rw [begins]
        rfl
      rw [inComment] at passed
      have tail := (passed.trans (skipFrom_suffix true _)).length_le
      rw [begins] at tail
      simp only [List.length_cons, List.tail_cons] at tail
      omega
  · have earlier := onward.place_suffix.length_le
    rw [place] at earlier
    have fragment : Verbosity.place ⟨false, b.outside []⟩
        (b.fragment.text ++ b.behind (c :: after)) = b.fragment.text ++ b.behind (c :: after) := rfl
    rw [fragment, List.length_append] at earlier
    omega

end Joined

end ModalLexer
