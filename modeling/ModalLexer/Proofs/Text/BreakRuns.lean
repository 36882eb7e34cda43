import Mathlib.Algebra.BigOperators.Group.List.Basic
import Mathlib.Algebra.GroupWithZero.Nat
import Mathlib.Data.List.SplitBy
import ModalLexer.Proofs.Scan.Counters

/-! # Runs of characters that end lines

Line breaks are counted from left to right, and two characters side by side are one break if they
differ.  The count can also be read off the text as a whole: cut it into the longest runs in which
all characters end lines and neighbours differ, and each run gives half of its length, rounded up
(`Lines.breakCount_eq_sum_runs`).  So nothing changes if carriage returns and line feeds are
exchanged. -/
set_option autoImplicit false
namespace ModalLexer

namespace Lines

/-- The longest runs of characters that end lines and differ from their neighbours. -/
def runs (text : List Char) : List (List Char) :=
  (text.splitBy fun c d => isBreak c && isBreak d && c != d).filter (·.all isBreak)

theorem isPair_eq (c d : Char) : isPair c d = (isBreak c && isBreak d && c != d) := by
  rw [Bool.eq_iff_iff]
  simp only [isPair, isBreak, Bool.or_eq_true, Bool.and_eq_true, decide_eq_true_eq, bne_iff_ne]
  constructor
  · rintro (⟨rfl, rfl⟩ | ⟨rfl, rfl⟩) <;> decide
  · rintro ⟨⟨rfl | rfl, rfl | rfl⟩, differ⟩ <;> simp_all

theorem runs_eq (text : List Char) : runs text = (text.splitBy isPair).filter (·.all isBreak) := by
  have same : isPair = fun c d => isBreak c && isBreak d && c != d := by
    funext c d
    exact isPair_eq c d
  rw [runs, same]

/-! ## Counting by runs -/

theorem breakCount_of_isChain {run : List Char} (breaks : ∀ c ∈ run, isBreak c = true)
    (chain : run.IsChain fun c d => isPair c d = true) :
    breakCount run = (run.length + 1) / 2 := by
  match run with
  | [] => rfl
  | [c] =>
      rw [breakCount_cons rfl, if_pos (breaks c List.mem_cons_self)]
      simp [breakCount]
  | c :: d :: rest =>
      have pair := (List.isChain_cons_cons.1 chain).1
      rw [List.forall_mem_cons, List.forall_mem_cons] at breaks
      have inner := breakCount_of_isChain breaks.2.2 chain.tail.tail
      rw [breakCount_pair pair, inner]
      simp only [List.length_cons]
      omega

theorem isBreak_of_isChain {c d : Char} {rest : List Char}
    (chain : (c :: d :: rest).IsChain fun c d => isPair c d = true) :
    ∀ e ∈ c :: d :: rest, isBreak e = true := by
  obtain ⟨pair, chain⟩ := List.isChain_cons_cons.1 chain
  rw [List.forall_mem_cons]
  refine ⟨(isBreak_of_isPair pair).1, ?_⟩
  cases rest with
  | nil => exact List.forall_mem_singleton.2 (isBreak_of_isPair pair).2
  | cons e rest => exact isBreak_of_isChain chain

theorem breakCount_of_mem_splitBy {text piece : List Char} (member : piece ∈ text.splitBy isPair) :
    breakCount piece = if piece.all isBreak = true then (piece.length + 1) / 2 else 0 := by
  have chain := List.isChain_of_mem_splitBy member
  match piece with
  | [] => rfl
  | [c] =>
      rw [breakCount_cons rfl]
      by_cases breaks : isBreak c = true
      · simp [breaks, breakCount]
      · simp [breaks, breakCount]
  | c :: d :: rest =>
      have breaks := isBreak_of_isChain chain
      rw [if_pos (List.all_eq_true.2 breaks), breakCount_of_isChain breaks chain]

theorem breakCount_append_of_not_tears {a b : List Char} (whole : tears a b = false) :
    breakCount (a ++ b) = breakCount a + breakCount b := by
  have bounds := breakCount_append a b
  rw [whole] at bounds
  exact Nat.le_antisymm bounds.1 bounds.2

theorem breakCount_flatten {pieces : List (List Char)}
    (apart : pieces.IsChain fun a b => ∃ ha hb, isPair (a.getLast ha) (b.head hb) = false) :
    breakCount pieces.flatten = (pieces.map breakCount).sum := by
  induction pieces with
  | nil => rfl
  | cons piece pieces ih =>
      have seam : tears piece pieces.flatten = false := by
        cases pieces with
        | nil => simp [tears]
        | cons next rest =>
            obtain ⟨some_char, some_char', single⟩ := (List.isChain_cons_cons.1 apart).1
            rw [List.flatten_cons, tears, List.getLast?_eq_getLast_of_ne_nil some_char,
              List.head?_append_of_ne_nil _ some_char', List.head?_eq_some_head some_char']
            exact single
      rw [List.flatten_cons, breakCount_append_of_not_tears seam, ih apart.tail, List.map_cons,
        List.sum_cons]

/-- The line breaks of a text are those of its runs, each of which has one for every two characters
and one for a character that is left over. -/
theorem breakCount_eq_sum_runs (text : List Char) :
    breakCount text = ((runs text).map fun run => (run.length + 1) / 2).sum := by
  have pieces := breakCount_flatten (List.isChain_getLast_head_splitBy isPair text)
  have each := List.map_congr_left fun (piece : List Char)
    (member : piece ∈ text.splitBy isPair) => breakCount_of_mem_splitBy member
  rw [List.flatten_splitBy, each, List.sum_map_ite] at pieces
  simpa only [Bool.decide_eq_true, runs_eq, List.map_const', List.sum_replicate,
    nsmul_zero, add_zero] using pieces

/-! ## Exchanging the two characters -/

def exchange (c : Char) : Char := if c = '\r' then '\n' else if c = '\n' then '\r' else c

theorem isBreak_exchange (c : Char) : isBreak (exchange c) = isBreak c := by
  by_cases cr : c = '\r'
  · subst cr
    rfl
  · by_cases lf : c = '\n'
    · subst lf
      rfl
    · rw [exchange, if_neg cr, if_neg lf]

theorem isPair_exchange (c d : Char) : isPair (exchange c) (exchange d) = isPair c d := by
  have injective : exchange c = exchange d ↔ c = d := by
    have twice (e : Char) : exchange (exchange e) = e := by
      simp only [exchange]
      split_ifs <;> simp_all
    exact ⟨fun same => by rw [← twice c, same, twice], fun same => by rw [same]⟩
  rw [isPair_eq, isPair_eq, isBreak_exchange, isBreak_exchange]
  simp only [bne, beq_eq_decide, injective]

theorem breakCount_map_exchange (text : List Char) :
    breakCount (text.map exchange) = breakCount text := by
  match text with
  | [] => rfl
  | [c] => rw [List.map_singleton, breakCount_cons rfl, breakCount_cons rfl, isBreak_exchange]
  | c :: d :: rest =>
      rw [List.map_cons, List.map_cons]
      by_cases pair : isPair c d = true
      · rw [breakCount_pair pair, breakCount_pair ((isPair_exchange c d).trans pair),
          breakCount_map_exchange rest]
      · rw [Bool.not_eq_true] at pair
        have inner := breakCount_map_exchange (d :: rest)
        rw [List.map_cons] at inner
        rw [breakCount_cons_cons pair, breakCount_cons_cons ((isPair_exchange c d).trans pair),
          isBreak_exchange, inner]

theorem tail_map_exchange (text : List Char) :
    tail (text.map exchange) = (tail text).map exchange := by
  have same : (!isBreak ·) ∘ exchange = (!isBreak ·) := by
    funext c
    exact congrArg not (isBreak_exchange c)
  rw [tail, tail, ← List.map_reverse, List.takeWhile_map, same, List.map_reverse]

/-- The last character of a text that ends a line, and the tail behind it. -/
theorem exists_last_break {text : List Char} (breaks : breakCount text ≠ 0) :
    ∃ before c, text = before ++ c :: tail text ∧ isBreak c = true ∧
      ∀ d ∈ tail text, isBreak d = false := by
  have plain : ∀ d ∈ tail text, isBreak d = false := fun d member =>
    not_isBreak_of_mem_takeWhile (List.mem_reverse.1 member)
  obtain ⟨front, whole, ends⟩ := exists_tail text
  obtain rfl | ⟨before, c, rfl⟩ := List.eq_nil_or_concat front
  · rw [List.nil_append] at whole
    rw [← whole] at plain
    exact absurd (breakCount_eq_zero_iff.2 plain) breaks
  · rw [List.concat_eq_append] at whole ends
    refine ⟨before, c, ?_, ends c List.getLast?_concat, plain⟩
    rwa [List.append_assoc, List.singleton_append] at whole

end Lines

namespace Location

theorem advance_scan_exchange (l : Location) (text : List Char) :
    l.advance (text.map Lines.exchange) .scan = l.advance text .scan := by
  simp only [advance, Lines.breakCount_map_exchange, Lines.tail_map_exchange, List.length_map]

/-- A text has as many line breaks as its runs of characters that end lines, if each run counts half
of its length, rounded up.  The line goes that many further, and the column is that of the last line
of the text, or goes on from where the text started if it has no break.  It does not matter which of
the two characters that end lines is which. -/
theorem advance_scan_runs (l : Location) (text : List Char) :
    (l.advance text .scan).2 = ((Lines.runs text).map fun run => (run.length + 1) / 2).sum ∧
    Further l.line (l.advance text .scan).2 (l.advance text .scan).1.line ∧
    (if (l.advance text .scan).2 = 0
      then Further l.col text.length (l.advance text .scan).1.col
      else ∃ before c after, text = before ++ c :: after ∧ Lines.isBreak c = true ∧
        (∀ d ∈ after, Lines.isBreak d = false) ∧
          Further 1 after.length (l.advance text .scan).1.col) ∧
    l.advance (text.map Lines.exchange) .scan = l.advance text .scan := by
  refine ⟨?_, l.advance_further text .scan, ?_, l.advance_scan_exchange text⟩
  · rw [breaks_scan]
    exact Lines.breakCount_eq_sum_runs text
  · rw [breaks_scan]
    split
    · next plain =>
        rw [advance_scan_of_zero plain]
        exact further_add l.col text.length
    · next breaks =>
        obtain ⟨before, c, whole, ends, plain⟩ := Lines.exists_last_break breaks
        refine ⟨before, c, Lines.tail text, whole, ends, plain, ?_⟩
        rw [advance_scan_of_ne_zero breaks]
        exact further_iff.2 (UInt64.add_comm _ 1)

/-- Two runs of three and four characters, and a single one. -/
example : (start.advance "\r\n\ra\n\r\n\r\r".toList .scan) = (⟨6, 1⟩, 5) := by decide

end Location

end ModalLexer
