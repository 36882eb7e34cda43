import ModalLexer.Pattern.Match
import ModalLexer.Proofs.Pattern.Groups

/-! # Runs of characters of a set

A greedy repetition of one round or more, of any character of a set, matches wherever such a
character comes next (`Pattern.first?_oneOrMore`).  Of two such runs, of a set and of its complement,
one matches in front of every character (`Pattern.first?_eitherRun`). -/
set_option autoImplicit false
namespace ModalLexer

theorem CharSet.isEmpty_eq_false {chars : CharSet} {c : Char} (inside : chars.contains c = true) :
    chars.isEmpty = false := by
  rw [isEmpty, List.isEmpty_eq_false_iff]
  intro empty
  rw [contains, empty] at inside
  cases inside

theorem firsts_ne_nil {ps : List Path} (some_path : ps ≠ []) : firsts ps ≠ [] := by
  intro empty
  have head := head?_firsts ps
  rw [empty, List.head?_nil, eq_comm, List.head?_eq_none_iff] at head
  exact some_path head

namespace Pattern

theorem onlyEmpty_ofSet (chars : CharSet) : (ofSet chars).onlyEmpty = false := by
  unfold ofSet
  split <;> rfl

section Contained

variable {chars : CharSet} {c : Char} (inside : chars.contains c = true)

include inside

theorem consumes_ofSet : (ofSet chars).consumes = true := by
  unfold ofSet
  split
  · rfl
  · rw [consumes, leastLength?, CharSet.isEmpty_eq_false inside]
    rfl

theorem run_ofSet_of_contains {p : Path} {s : Spot} (next : p.spot.next? = some (c, s)) :
    (ofSet chars).run none p = [p.moveTo s] := by
  unfold ofSet
  split
  · next d only =>
      rw [CharSet.contains_of_only? only, beq_iff_eq] at inside
      subst inside
      simp [run, Spot.skip?, next]
  · simp [run, next, inside]

end Contained

/-- As many characters of a set as there are, but one at least. -/
def oneOrMore (chars : CharSet) : Pattern := .repetition 1 none true (.ofSet chars)

theorem repeated_ofSet (chars : CharSet) : repeated 1 none true (.ofSet chars) = oneOrMore chars := by
  rw [repeated, onlyEmpty_ofSet]
  rfl

/-- A round is found, and the place behind it is the last one found. -/
theorem atLeastOnce_ne_nil {body : Path → List Path} {p q : Path} (round : body p = [q]) :
    atLeastOnce body true none p ≠ [] := by
  apply firsts_ne_nil
  have unseen : BitSet.empty.contains q.offset = false := by
    simp [BitSet.empty, BitSet.contains]
  simp [round, roundsFrom, unseen, Path.pass?]

theorem first?_oneOrMore {chars : CharSet} {c : Char} {s t : Spot} (next : s.next? = some (c, t))
    (inside : chars.contains c = true) : (oneOrMore chars).first? s ≠ none := by
  have round : (ofSet chars).run none (.start s) = [(Path.start s).moveTo t] :=
    run_ofSet_of_contains inside next
  have ways := firsts_ne_nil (atLeastOnce_ne_nil round)
  rw [first?_eq_head?, Ne, List.head?_eq_none_iff]
  simpa [oneOrMore, run, runRepetition, consumes_ofSet inside, within, exactRounds] using ways

/-- A run of characters of a set, or else of others. -/
def eitherRun (chars : CharSet) : Pattern :=
  .choice (oneOrMore chars) (oneOrMore chars.complement)

theorem choose_oneOrMore (chars : CharSet) :
    choose [oneOrMore chars, oneOrMore chars.complement] = eitherRun chars := by
  simp [choose, branches, oneOrMore, sharedStart?, sequenceParts?, chooseApart, onlyChar?, set?,
    foldChoice, eitherRun]

theorem groups_eitherRun (chars : CharSet) : (eitherRun chars).groups = [] := by
  simp only [eitherRun, oneOrMore, groups, groups_ofSet, List.append_nil]

/-- Every character is in a set or in its complement. -/
theorem first?_eitherRun (chars : CharSet) {s : Spot} (more : s.atEnd = false) :
    (eitherRun chars).first? s ≠ none := by
  rw [Spot.atEnd, List.isEmpty_eq_false_iff] at more
  obtain ⟨c, rest, some_rest⟩ := List.exists_cons_of_ne_nil more
  obtain ⟨t, next⟩ : ∃ t, s.next? = some (c, t) := by
    obtain ⟨past, _, offset, offset_eq⟩ := s
    dsimp only at some_rest
    subst some_rest
    exact ⟨_, rfl⟩
  have either := chars.contains_or_contains_complement c
  rw [Bool.or_eq_true] at either
  intro nothing
  rw [first?, eitherRun, firstFrom?, Option.or_eq_none_iff] at nothing
  rcases either with inside | outside
  · exact first?_oneOrMore next inside nothing.1
  · exact first?_oneOrMore next outside nothing.2

end Pattern

end ModalLexer
