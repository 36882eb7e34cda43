/-! # Sets of characters

A set is a list of code-point intervals.  `insert` keeps the list ascending with a gap between
neighbours, so equal sets built by the operations here are equal lists; membership
(`contains`) asks only whether some interval covers the character.
`contains_union`, `contains_inter` and `contains_or_contains_complement` give the operations
their meaning. -/
set_option autoImplicit false
namespace ModalLexer

/-- The code points from `lo` to `hi`, both included. -/
structure Interval where
  lo : Nat
  hi : Nat
deriving DecidableEq

namespace Interval

def covers (i : Interval) (n : Nat) : Bool := i.lo ≤ n && n ≤ i.hi

def meet? (i j : Interval) : Option Interval :=
  let lo := max i.lo j.lo
  let hi := min i.hi j.hi
  if lo ≤ hi then some ⟨lo, hi⟩ else none

end Interval

/-- A set of characters, as ascending intervals of code points. -/
structure CharSet where
  intervals : List Interval
deriving DecidableEq

/-- Adds an interval to an ascending list, merging what touches it. -/
def insertInterval (i : Interval) : List Interval → List Interval
  | [] => [i]
  | j :: rest =>
      if i.hi + 1 < j.lo then i :: j :: rest
      else if j.hi + 1 < i.lo then j :: insertInterval i rest
      else insertInterval ⟨min i.lo j.lo, max i.hi j.hi⟩ rest

def lastCodePoint : Nat := 0x10FFFF

/-- What an ascending list leaves uncovered from `lo` on. -/
def gapsFrom (lo : Nat) : List Interval → List Interval
  | [] => if lo ≤ lastCodePoint then [⟨lo, lastCodePoint⟩] else []
  | i :: rest =>
      if lo < i.lo then ⟨lo, i.lo - 1⟩ :: gapsFrom (max lo (i.hi + 1)) rest
      else gapsFrom (max lo (i.hi + 1)) rest

namespace CharSet

def contains (s : CharSet) (c : Char) : Bool := s.intervals.any (·.covers c.toNat)

def empty : CharSet := ⟨[]⟩

def full : CharSet := ⟨[⟨0, lastCodePoint⟩]⟩

/-- The characters from `lo` to `hi`, none if that runs downwards. -/
def range (lo hi : Char) : CharSet := ⟨if lo ≤ hi then [⟨lo.toNat, hi.toNat⟩] else []⟩

def single (c : Char) : CharSet := range c c

def ofIntervals (is : List Interval) : CharSet := ⟨is.foldr insertInterval []⟩

def ofChars (cs : List Char) : CharSet := ofIntervals (cs.map fun c => ⟨c.toNat, c.toNat⟩)

def union (s t : CharSet) : CharSet := ⟨s.intervals.foldr insertInterval t.intervals⟩

def unions (sets : List CharSet) : CharSet := sets.foldr union empty

def complement (s : CharSet) : CharSet := ⟨gapsFrom 0 s.intervals⟩

def inter (s t : CharSet) : CharSet :=
  ⟨s.intervals.flatMap fun i => t.intervals.filterMap i.meet?⟩

def diff (s t : CharSet) : CharSet := s.inter t.complement

def symmDiff (s t : CharSet) : CharSet := (s.diff t).union (t.diff s)

def isEmpty (s : CharSet) : Bool := s.intervals.isEmpty

def isAscii (s : CharSet) : Bool := s.intervals.all (·.hi < 0x80)

/-- The member of a set of exactly one character. -/
def only? (s : CharSet) : Option Char :=
  match s.intervals with
  | [⟨lo, hi⟩] => if lo = hi ∧ lo.isValidChar then some (Char.ofNat lo) else none
  | _ => none

end CharSet

namespace Interval

theorem covers_iff (i : Interval) (n : Nat) : i.covers n = true ↔ i.lo ≤ n ∧ n ≤ i.hi := by
  simp [covers]

end Interval

theorem any_insertInterval (n : Nat) (i : Interval) (is : List Interval) :
    i.lo ≤ i.hi → (∀ j ∈ is, j.lo ≤ j.hi) →
      ((insertInterval i is).any (·.covers n) = (i.covers n || is.any (·.covers n))) := by
  fun_induction insertInterval i is with
  | case1 i => intro _ _; simp
  | case2 i j rest before => intro _ _; simp
  | case3 i j rest before after ih =>
      intro ordered all
      simp only [List.any_cons, ih ordered fun k member => all k (List.mem_cons_of_mem _ member)]
      cases i.covers n <;> cases j.covers n <;> simp
  | case4 i j rest before after ih =>
      intro ordered all
      have orderedHead := all j List.mem_cons_self
      rw [ih (by simp only; omega) fun k member => all k (List.mem_cons_of_mem _ member)]
      rw [List.any_cons, ← Bool.or_assoc]
      congr 1
      simp only [Interval.covers]
      rw [Bool.eq_iff_iff]
      simp only [Bool.and_eq_true, Bool.or_eq_true, decide_eq_true_eq]
      omega

theorem lo_le_hi_of_mem_insertInterval (i : Interval) (is : List Interval) :
    i.lo ≤ i.hi → (∀ j ∈ is, j.lo ≤ j.hi) → ∀ k ∈ insertInterval i is, k.lo ≤ k.hi := by
  fun_induction insertInterval i is with
  | case1 i => intro up _ k member; simp_all
  | case2 i j rest before =>
      intro up all k member
      rcases List.mem_cons.1 member with rfl | member
      · exact up
      · exact all k member
  | case3 i j rest before after ih =>
      intro up all k member
      rcases List.mem_cons.1 member with rfl | member
      · exact all _ List.mem_cons_self
      · exact ih up (fun m inRest => all m (List.mem_cons_of_mem _ inRest)) k member
  | case4 i j rest before after ih =>
      intro up all
      have := all j List.mem_cons_self
      exact ih (by simp only; omega) fun m inRest => all m (List.mem_cons_of_mem _ inRest)

theorem any_gapsFrom (n : Nat) (small : n ≤ lastCodePoint) (is : List Interval) :
    ∀ lo, lo ≤ n → is.any (·.covers n) = false → (gapsFrom lo is).any (·.covers n) = true := by
  induction is with
  | nil =>
      intro lo low _
      have : lo ≤ lastCodePoint := Nat.le_trans low small
      simp [gapsFrom, this, Interval.covers, low, small]
  | cons i rest ih =>
      intro lo low uncovered
      simp only [List.any_cons, Bool.or_eq_false_iff] at uncovered
      have outside : ¬ (i.lo ≤ n ∧ n ≤ i.hi) := fun inside => by
        have := (Interval.covers_iff i n).2 inside
        simp [uncovered.1] at this
      unfold gapsFrom
      split
      · by_cases below : n < i.lo
        · simp only [List.any_cons, Bool.or_eq_true]
          exact Or.inl ((Interval.covers_iff _ _).2 ⟨low, by simp only; omega⟩)
        · simp only [List.any_cons, Bool.or_eq_true]
          exact Or.inr (ih _ (by omega) uncovered.2)
      · exact ih _ (by omega) uncovered.2

namespace CharSet

def Ordered (s : CharSet) : Prop := ∀ i ∈ s.intervals, i.lo ≤ i.hi

theorem toNat_le_last (c : Char) : c.toNat ≤ lastCodePoint := by
  have valid := c.valid
  simp only [UInt32.isValidChar, Nat.isValidChar] at valid
  show c.val.toNat ≤ 0x10FFFF
  omega

theorem any_foldr_insertInterval (n : Nat) (is js : List Interval) :
    (∀ i ∈ is, i.lo ≤ i.hi) → (∀ j ∈ js, j.lo ≤ j.hi) →
      (is.foldr insertInterval js).any (·.covers n) = (is.any (·.covers n) || js.any (·.covers n)) ∧
        ∀ i ∈ is.foldr insertInterval js, i.lo ≤ i.hi := by
  intro up upTail
  induction is with
  | nil => exact ⟨by simp, upTail⟩
  | cons i rest ih =>
      obtain ⟨same, ordered⟩ := ih fun j member => up j (List.mem_cons_of_mem _ member)
      refine ⟨?_, ?_⟩
      · rw [List.foldr_cons, any_insertInterval n i _ (up i List.mem_cons_self) ordered, same,
          List.any_cons, Bool.or_assoc]
      · rw [List.foldr_cons]
        exact lo_le_hi_of_mem_insertInterval i _ (up i List.mem_cons_self) ordered

theorem contains_union (s t : CharSet) (upS : s.Ordered) (upT : t.Ordered) (c : Char) :
    (s.union t).contains c = (s.contains c || t.contains c) :=
  (any_foldr_insertInterval c.toNat s.intervals t.intervals upS upT).1

theorem contains_inter (s t : CharSet) (c : Char) :
    (s.inter t).contains c = (s.contains c && t.contains c) := by
  rw [Bool.eq_iff_iff]
  simp only [contains, inter, List.any_flatMap, List.any_eq_true, Bool.and_eq_true,
    List.mem_filterMap, Interval.covers_iff]
  constructor
  · rintro ⟨i, inS, k, ⟨j, inT, met⟩, bounds⟩
    simp only [Interval.meet?] at met
    split at met
    · obtain rfl := Option.some.inj met
      simp only at bounds
      exact ⟨⟨i, inS, by omega⟩, j, inT, by omega⟩
    · cases met
  · rintro ⟨⟨i, inS, inI⟩, j, inT, inJ⟩
    have overlap : max i.lo j.lo ≤ min i.hi j.hi := by omega
    exact ⟨i, inS, ⟨max i.lo j.lo, min i.hi j.hi⟩, ⟨j, inT, by simp [Interval.meet?, overlap]⟩,
      by simp only; omega⟩

theorem contains_of_only? {s : CharSet} {d : Char} (only : s.only? = some d) (c : Char) :
    s.contains c = (c == d) := by
  unfold only? at only
  split at only
  · next lo hi single =>
      split at only
      · next one =>
          obtain ⟨rfl, valid⟩ := one
          obtain rfl := Option.some.inj only
          have code : (Char.ofNat lo).toNat = lo := by
            rw [Char.ofNat, dif_pos valid]
            rfl
          rw [Bool.eq_iff_iff, beq_iff_eq, ← Char.toNat_inj, code, contains, single]
          simp only [List.any_cons, List.any_nil, Bool.or_false, Interval.covers_iff]
          omega
      · cases only
  · cases only

theorem contains_or_contains_complement (s : CharSet) (c : Char) :
    (s.contains c || s.complement.contains c) = true := by
  rw [Bool.or_eq_true]
  by_cases inside : s.contains c = true
  · exact Or.inl inside
  · exact Or.inr (any_gapsFrom c.toNat (toNat_le_last c) s.intervals 0 (Nat.zero_le _)
      (by simpa [contains] using inside))

end CharSet

end ModalLexer
