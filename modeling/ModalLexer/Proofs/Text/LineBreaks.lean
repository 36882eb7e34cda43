import Mathlib.Data.List.TakeWhile
import ModalLexer.Scan.Location

/-! # Line breaks of texts put together

Two texts have together as many line breaks as the whole, or one more if a carriage return and a
line feed are torn apart between them (`Lines.breakCount_append`).  The column behind the whole is
the column behind the second text (`Location.col_advance_append`). -/
set_option autoImplicit false
namespace ModalLexer

namespace Lines

/-- Whether two characters side by side are one line break. -/
def isPair (c d : Char) : Bool := c = '\r' && d = '\n' || c = '\n' && d = '\r'

/-- Whether a break of two characters is torn apart between two texts. -/
def tears (a b : List Char) : Bool := a.getLast?.any fun c => b.head?.any fun d => isPair c d

theorem isBreak_of_isPair {c d : Char} (pair : isPair c d = true) :
    isBreak c = true ∧ isBreak d = true := by
  simp only [isPair, Bool.or_eq_true, Bool.and_eq_true, decide_eq_true_eq] at pair
  rcases pair with ⟨rfl, rfl⟩ | ⟨rfl, rfl⟩ <;> decide

theorem breakCount_pair {c d : Char} (pair : isPair c d = true) (rest : List Char) :
    breakCount (c :: d :: rest) = breakCount rest + 1 := by
  simp only [isPair, Bool.or_eq_true, Bool.and_eq_true, decide_eq_true_eq] at pair
  rcases pair with ⟨rfl, rfl⟩ | ⟨rfl, rfl⟩ <;> rfl

theorem breakCount_cons {c : Char} {rest : List Char}
    (single : (rest.head?.any fun d => isPair c d) = false) :
    breakCount (c :: rest) = (if isBreak c then 1 else 0) + breakCount rest := by
  rw [breakCount]
  · split
    · exact Nat.add_comm _ 1
    · exact (Nat.zero_add _).symm
  · rintro more rfl rfl
    exact absurd single (by simp [isPair])
  · rintro more rfl rfl
    exact absurd single (by simp [isPair])

theorem breakCount_cons_cons {c d : Char} {rest : List Char} (single : isPair c d = false) :
    breakCount (c :: d :: rest) = (if isBreak c then 1 else 0) + breakCount (d :: rest) :=
  breakCount_cons single

/-- A character in front adds a break or joins the one behind it. -/
theorem breakCount_cons_le (c : Char) (rest : List Char) :
    breakCount rest ≤ breakCount (c :: rest) ∧ breakCount (c :: rest) ≤ breakCount rest + 1 := by
  induction rest generalizing c with
  | nil =>
      rw [breakCount_cons rfl]
      split <;> omega
  | cons d rest ih =>
      by_cases pair : isPair c d = true
      · have inner := ih d
        rw [breakCount_pair pair]
        omega
      · rw [breakCount_cons_cons (Bool.eq_false_iff.2 pair)]
        split <;> omega

theorem breakCount_le_length (text : List Char) : breakCount text ≤ text.length := by
  induction text with
  | nil => exact Nat.le_refl 0
  | cons c rest ih => exact (breakCount_cons_le c rest).2.trans (Nat.succ_le_succ ih)

theorem tears_singleton (c : Char) (b : List Char) :
    tears [c] b = b.head?.any fun d => isPair c d := rfl

theorem tears_cons_cons (c d : Char) (a b : List Char) :
    tears (c :: d :: a) b = tears (d :: a) b := by
  rw [tears, List.getLast?_cons_cons, tears]

theorem tears_cons {a b : List Char} (c : Char) (torn : tears a b = true) :
    tears (c :: a) b = true := by
  cases a with
  | nil => cases torn
  | cons d a => rwa [tears_cons_cons]

/-- Breaks are counted apart unless one is torn, and then there is at most one more. -/
theorem breakCount_append (a b : List Char) :
    breakCount (a ++ b) ≤ breakCount a + breakCount b ∧
      breakCount a + breakCount b ≤ breakCount (a ++ b) + if tears a b then 1 else 0 := by
  match a with
  | [] => exact ⟨by simp [breakCount], by simp [breakCount]⟩
  | [c] =>
      have single : breakCount [c] = if isBreak c then 1 else 0 := breakCount_cons rfl
      rw [List.singleton_append, single]
      by_cases torn : tears [c] b = true
      · have whole := breakCount_cons_le c b
        have breaks : isBreak c = true := by
          rw [tears_singleton, Option.any_eq_true] at torn
          obtain ⟨d, -, pair⟩ := torn
          exact (isBreak_of_isPair pair).1
        rw [if_pos torn, if_pos breaks]
        omega
      · have apart : breakCount (c :: b) = _ := breakCount_cons (Bool.eq_false_iff.2 torn)
        rw [apart]
        omega
  | c :: d :: rest =>
      -- Pairs are made from left to right, so those in front of the seam stay as they are.
      by_cases pair : isPair c d = true
      · have inner := breakCount_append rest b
        rw [List.cons_append, List.cons_append, breakCount_pair pair, breakCount_pair pair]
        by_cases torn : tears rest b = true
        · rw [if_pos torn] at inner
          rw [if_pos (tears_cons c (tears_cons d torn))]
          omega
        · rw [if_neg torn] at inner
          omega
      · have inner := breakCount_append (d :: rest) b
        rw [Bool.not_eq_true] at pair
        rw [List.cons_append, List.cons_append, breakCount_cons_cons pair,
          breakCount_cons_cons pair, tears_cons_cons, ← List.cons_append]
        omega

theorem breakCount_cons_of_not_isBreak {c : Char} (plain : isBreak c = false) (rest : List Char) :
    breakCount (c :: rest) = breakCount rest := by
  have single : (rest.head?.any fun d => isPair c d) = false := by
    rw [Option.any_eq_false]
    intro d _
    refine Bool.eq_false_iff.2 fun pair => ?_
    rw [(isBreak_of_isPair pair).1] at plain
    cases plain
  rw [breakCount_cons single, plain]
  exact Nat.zero_add _

theorem breakCount_cons_pos {c : Char} (breaks : isBreak c = true) (rest : List Char) :
    0 < breakCount (c :: rest) := by
  cases rest with
  | nil =>
      rw [breakCount_cons rfl, if_pos breaks]
      omega
  | cons d rest =>
      by_cases pair : isPair c d = true
      · rw [breakCount_pair pair]
        omega
      · rw [breakCount_cons_cons (Bool.eq_false_iff.2 pair), if_pos breaks]
        omega

theorem breakCount_eq_zero_iff {text : List Char} :
    breakCount text = 0 ↔ ∀ c ∈ text, isBreak c = false := by
  induction text with
  | nil => exact iff_of_true rfl nofun
  | cons c rest ih =>
      rw [List.forall_mem_cons, ← ih]
      by_cases breaks : isBreak c = true
      · have positive := breakCount_cons_pos breaks rest
        simp only [breaks, Bool.true_eq_false, false_and, iff_false]
        omega
      · rw [Bool.not_eq_true] at breaks
        simp [breaks, breakCount_cons_of_not_isBreak]

theorem tail_append_of_breakCount_eq_zero {a b : List Char} (plain : breakCount b = 0) :
    tail (a ++ b) = tail a ++ b := by
  have kept : ∀ c ∈ b.reverse, (!isBreak c) = true := by
    intro c member
    rw [breakCount_eq_zero_iff.1 plain c (List.mem_reverse.1 member)]
    rfl
  rw [tail, List.reverse_append, List.takeWhile_append_of_pos kept, List.reverse_append,
    List.reverse_reverse, tail]

theorem tail_append_of_breakCount_ne_zero {a b : List Char} (breaks : breakCount b ≠ 0) :
    tail (a ++ b) = tail b := by
  have short : (b.reverse.takeWhile (!isBreak ·)).length ≠ b.reverse.length := by
    intro full
    refine breaks (breakCount_eq_zero_iff.2 fun c member => ?_)
    have same := (List.takeWhile_prefix _).eq_of_length full
    have kept := List.takeWhile_eq_self_iff.1 same c (List.mem_reverse.2 member)
    simpa using kept
  rw [tail, List.reverse_append, List.takeWhile_append, if_neg short, tail]

theorem breakCount_append_eq_zero_iff {a b : List Char} :
    breakCount (a ++ b) = 0 ↔ breakCount a = 0 ∧ breakCount b = 0 := by
  simp only [breakCount_eq_zero_iff, List.forall_mem_append]

theorem not_isBreak_of_mem_takeWhile {text : List Char} {c : Char}
    (member : c ∈ text.takeWhile (!isBreak ·)) : isBreak c = false := by
  simpa using List.mem_takeWhile_imp member

theorem isBreak_of_head?_dropWhile {text : List Char} {c : Char}
    (first : (text.dropWhile (!isBreak ·)).head? = some c) : isBreak c = true := by
  have stop := List.head?_dropWhile_not (!isBreak ·) text
  rw [first] at stop
  simpa using stop

theorem exists_tail (text : List Char) : ∃ before, text = before ++ tail text ∧
    ∀ c, before.getLast? = some c → isBreak c = true := by
  refine ⟨(text.reverse.dropWhile (!isBreak ·)).reverse, ?_, ?_⟩
  · rw [tail, ← List.reverse_append, List.takeWhile_append_dropWhile, List.reverse_reverse]
  · intro c last
    rw [List.getLast?_reverse] at last
    exact isBreak_of_head?_dropWhile last

end Lines

namespace Location

theorem advance_scan_of_zero {text : List Char} (plain : Lines.breakCount text = 0)
    (l : Location) : l.advance text .scan = l.advance text .none := by
  simp only [advance, plain]

theorem advance_scan_of_ne_zero {text : List Char} (breaks : Lines.breakCount text ≠ 0)
    (l : Location) : l.advance text .scan =
      (⟨l.line + Lines.breakCount text, (Lines.tail text).length + 1⟩,
        Lines.breakCount text) := by
  obtain ⟨n, count⟩ := Nat.exists_eq_succ_of_ne_zero breaks
  simp only [advance, count, Nat.succ_eq_add_one]

theorem breaks_scan (l : Location) (text : List Char) :
    (l.advance text .scan).2 = Lines.breakCount text := by
  by_cases plain : Lines.breakCount text = 0
  · rw [advance_scan_of_zero plain, plain, advance]
  · rw [advance_scan_of_ne_zero plain]

theorem line_scan (l : Location) (text : List Char) :
    (l.advance text .scan).1.line = l.line + .ofNat (Lines.breakCount text) := by
  by_cases plain : Lines.breakCount text = 0
  · rw [advance_scan_of_zero plain, plain, advance]
    exact (UInt64.add_zero l.line).symm
  · rw [advance_scan_of_ne_zero plain]

/-- The line reached says nothing about the column. -/
theorem col_scan_congr {l m : Location} (same : l.col = m.col) (text : List Char) :
    (l.advance text .scan).1.col = (m.advance text .scan).1.col := by
  by_cases plain : Lines.breakCount text = 0
  · rw [advance_scan_of_zero plain, advance_scan_of_zero plain, advance, advance, same]
  · rw [advance_scan_of_ne_zero plain, advance_scan_of_ne_zero plain]

/-- The column depends on the line breaks of the whole text, not on how it is cut. -/
theorem col_scan_append (l : Location) (a b : List Char) :
    (l.advance (a ++ b) .scan).1.col = ((l.advance a .scan).1.advance b .scan).1.col := by
  by_cases plain : Lines.breakCount b = 0
  · rw [advance_scan_of_zero plain]
    by_cases plain' : Lines.breakCount a = 0
    · have none := Lines.breakCount_append_eq_zero_iff.2 ⟨plain', plain⟩
      rw [advance_scan_of_zero none, advance_scan_of_zero plain']
      simp only [advance, List.length_append, UInt64.ofNat_add, UInt64.add_assoc]
    · have some : Lines.breakCount (a ++ b) ≠ 0 := fun none =>
        plain' (Lines.breakCount_append_eq_zero_iff.1 none).1
      rw [advance_scan_of_ne_zero some, advance_scan_of_ne_zero plain',
        Lines.tail_append_of_breakCount_eq_zero plain]
      simp only [advance, List.length_append, UInt64.ofNat_add, UInt64.add_assoc,
        UInt64.add_comm 1]
  · have some : Lines.breakCount (a ++ b) ≠ 0 := fun none =>
      plain (Lines.breakCount_append_eq_zero_iff.1 none).2
    rw [advance_scan_of_ne_zero some, advance_scan_of_ne_zero plain,
      Lines.tail_append_of_breakCount_ne_zero plain]

end Location

end ModalLexer
