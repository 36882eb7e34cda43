import ModalLexer.Proofs.Text.LineBreaks

/-! # Lines and columns as numbers

A line or a column is a number of 64 bits.  Advancing takes it further by a number of line breaks or
of characters, and this is a sum of numbers unless it is too large for 64 bits
(`Location.advance_further`, `Location.Fits`). -/
set_option autoImplicit false
namespace ModalLexer

/-- One counter is some steps further than another: as sums of 64 bits go, and as a number unless the
sum is too large for them. -/
structure Further (a : UInt64) (n : Nat) (b : UInt64) : Prop where
  wraps : b = a + .ofNat n
  exact : a.toNat + n < UInt64.size → b.toNat = a.toNat + n

section Further

variable {a b c : UInt64} {m n : Nat}

theorem toNat_add_ofNat (fits : a.toNat + n < UInt64.size) :
    (a + .ofNat n).toNat = a.toNat + n := by
  have small : n < UInt64.size := by omega
  rw [UInt64.toNat_add, UInt64.toNat_ofNat_of_lt' small]
  exact Nat.mod_eq_of_lt fits

theorem one_le_iff_ne_zero : 1 ≤ a ↔ a ≠ 0 := by
  rw [UInt64.le_iff_toNat_le, Ne, ← UInt64.toNat_inj]
  exact Nat.one_le_iff_ne_zero

theorem further_iff : Further a n b ↔ b = a + .ofNat n := by
  refine ⟨Further.wraps, ?_⟩
  rintro rfl
  exact ⟨rfl, toNat_add_ofNat⟩

theorem further_add (a : UInt64) (n : Nat) : Further a n (a + .ofNat n) := further_iff.2 rfl

theorem further_zero (a : UInt64) : Further a 0 a := further_iff.2 (UInt64.add_zero a).symm

theorem Further.trans (first : Further a m b) (second : Further b n c) : Further a (m + n) c := by
  rw [further_iff] at *
  rw [second, first, UInt64.ofNat_add, UInt64.add_assoc]

theorem Further.le (further : Further a n b) (fits : a.toNat + n < UInt64.size) : a ≤ b := by
  rw [UInt64.le_iff_toNat_le, further.exact fits]
  exact Nat.le_add_right _ _

theorem Further.lt (further : Further a n b) (fits : a.toNat + n < UInt64.size)
    (positive : 0 < n) : a < b := by
  rw [UInt64.lt_iff_toNat_lt, further.exact fits]
  exact Nat.lt_add_of_pos_right positive

end Further

namespace Location

theorem advance_further (l : Location) (text : List Char) (policy : LineBreaks) :
    Further l.line (l.advance text policy).2 (l.advance text policy).1.line := by
  cases policy with
  | none => exact further_zero l.line
  | fixed n => exact further_iff.2 (by rw [advance, UInt64.ofNat_toNat])
  | scan =>
      rw [breaks_scan, line_scan]
      exact further_add l.line _

/-- No sum is too large in advancing over a text. -/
def Fits (l : Location) (text : List Char) : LineBreaks → Prop
  | .none => l.col.toNat + text.length < UInt64.size
  | .fixed n => l.line.toNat + n.toNat < UInt64.size
  | .scan =>
      if Lines.breakCount text = 0 then l.col.toNat + text.length < UInt64.size
      else l.line.toNat + Lines.breakCount text < UInt64.size ∧
        1 + (Lines.tail text).length < UInt64.size

instance (l : Location) (text : List Char) (policy : LineBreaks) :
    Decidable (l.Fits text policy) :=
  match policy with
  | .none => inferInstanceAs (Decidable (_ < _))
  | .fixed _ => inferInstanceAs (Decidable (_ < _))
  | .scan => inferInstanceAs (Decidable (ite (_ = _) (_ < _) (_ ∧ _)))

/-- Lines and columns are counted from 1. -/
def Positive (l : Location) : Prop := 1 ≤ l.line ∧ 1 ≤ l.col

theorem positive_iff {l : Location} : l.Positive ↔ ¬ (l.line = 0 ∨ l.col = 0) := by
  rw [Positive, not_or, one_le_iff_ne_zero, one_le_iff_ne_zero]

theorem Positive.advance {l : Location} (positive : l.Positive) {text : List Char}
    {policy : LineBreaks} (fits : l.Fits text policy) : (l.advance text policy).1.Positive := by
  obtain ⟨line, col⟩ := positive
  have along (fits : l.col.toNat + text.length < UInt64.size) :
      1 ≤ l.col + .ofNat text.length :=
    UInt64.le_trans col ((further_add l.col text.length).le fits)
  have onward {n : Nat} (fits : l.line.toNat + n < UInt64.size) : 1 ≤ l.line + .ofNat n :=
    UInt64.le_trans line ((further_add l.line n).le fits)
  cases policy with
  | none => exact ⟨line, along fits⟩
  | fixed n =>
      have reached := onward fits
      rw [UInt64.ofNat_toNat] at reached
      exact ⟨reached, UInt64.le_refl 1⟩
  | scan =>
      rw [Fits] at fits
      by_cases plain : Lines.breakCount text = 0
      · rw [if_pos plain] at fits
        rw [advance_scan_of_zero plain]
        exact ⟨line, along fits⟩
      · rw [if_neg plain] at fits
        rw [advance_scan_of_ne_zero plain, UInt64.add_comm _ 1]
        exact ⟨onward fits.1, (further_add 1 _).le fits.2⟩

end Location

end ModalLexer
