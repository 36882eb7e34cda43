import ModalLexer.Json.Writer
import ModalLexer.Proofs.Json.Grammar

/-! # Compact texts follow the grammar

A number in base ten is written as a number, a printable text as a string, and the fields of an object
between commas (`spells_compactFields`). -/
set_option autoImplicit false
namespace ModalLexer.Json

theorem digits_toDigits (n : Nat) : Digits (Nat.toDigits 10 n) :=
  ⟨Nat.toDigits_ne_nil, fun _ => Nat.isDigit_of_mem_toDigits (by decide) (by decide)⟩

/-- Only zero is written with a zero at its head. -/
theorem head?_toDigits_ne {n : Nat} (positive : 0 < n) : (Nat.toDigits 10 n).head? ≠ some '0' := by
  induction n using Nat.strongRecOn with
  | ind n ih =>
      by_cases small : n < 10
      · rw [Nat.toDigits_of_lt_base small]
        intro zero
        have := Nat.digitChar_eq_zero.1 (Option.some.inj zero)
        omega
      · have quotient := ih (n / 10) (by omega) (by omega)
        obtain ⟨d, rest, digits⟩ := List.exists_cons_of_ne_nil (Nat.toDigits_ne_nil (n := n / 10))
        rw [Nat.toDigits_of_base_le (by decide) (by omega), digits]
        rwa [digits] at quotient

theorem isNumber_toDigits (n : Nat) : IsNumber (Nat.toDigits 10 n) := by
  have isWhole : IsWhole (Nat.toDigits 10 n) := by
    cases n with
    | zero => exact .zero
    | succ n => exact .digits (digits_toDigits _) (head?_toDigits_ne n.succ_pos)
  have isNumber := IsNumber.parts (.inl rfl) isWhole .none .none
  rwa [List.nil_append, List.append_nil, List.append_nil] at isNumber

theorem spells_ofNat (n : Nat) (left : List Char) :
    Spells (.value (.ofNat n)) ((ofNat n).compact ++ left) left :=
  .number (isNumber_toDigits n) left

theorem spellsUnits_writeUnit {c : Char} (printable : 0x20 ≤ c.toNat) {units : List StringUnit}
    {cs left : List Char} (later : SpellsUnits units cs left) :
    SpellsUnits (.char c :: units) (writeUnit (.char c) ++ cs) left := by
  simp only [writeUnit]
  split
  case h_8 no_quote no_backslash _ _ _ _ _ =>
    rw [if_neg (Nat.not_lt.2 printable)]
    exact .plain printable no_quote no_backslash later
  all_goals exact .escape (by decide) later

theorem spellsUnits_writeString {name : List Char}
    (printable : name.all (0x20 ≤ ·.toNat) = true) (left : List Char) :
    SpellsUnits (name.map .char) ((name.map .char).flatMap writeUnit ++ '"' :: left) left := by
  induction name with
  | nil => exact .close left
  | cons c name ih =>
      rw [List.all_cons, Bool.and_eq_true, decide_eq_true_eq] at printable
      have later := spellsUnits_writeUnit printable.1 (ih printable.2)
      rw [← List.append_assoc] at later
      exact later

section Fields

variable {fields : List (List StringUnit × Json)}
  (names : ∀ f ∈ fields, ∀ left, SpellsUnits f.1 (f.1.flatMap writeUnit ++ '"' :: left) left)
  (values : ∀ f ∈ fields, ∀ left, Spells (.value f.2) (f.2.compact ++ left) left)

include names values

theorem spells_compactFields (nonempty : fields ≠ []) (left : List Char) :
    Spells (.fields fields) (compactFields fields ++ '\x7d' :: left) left := by
  induction fields with
  | nil => exact absurd rfl nonempty
  | cons f fields ih =>
      rw [List.forall_mem_cons] at names values
      obtain ⟨name, value⟩ := f
      cases fields with
      | nil =>
          have spelled := Spells.lastField (names.1 _) (.alone ':' _) (values.1 _)
            (.none ('\x7d' :: left))
          simpa [compactFields, writeString] using spelled
      | cons next fields =>
          have later := ih names.2 values.2 (List.cons_ne_nil _ _)
          have spelled := Spells.field (names.1 _) (.alone ':' _) (values.1 _) (.alone ',' _) later
          simpa [compactFields, writeString] using spelled

/-- The compact text of an object writes it, with white space around it too. -/
theorem writes_compact_object (nonempty : fields ≠ []) (before after : List Char)
    (blank : ∀ c ∈ before, isBlank c = true) (blank' : ∀ c ∈ after, isBlank c = true) :
    Writes (before ++ (object fields).compact ++ after) (.object fields) := by
  have inside := spells_compactFields names values nonempty after
  refine ⟨_, after, ⟨before, blank, ?_⟩, .object (.none _) inside, after, blank', ?_⟩
  · simp [compact]
  · exact (List.append_nil after).symm

end Fields

end ModalLexer.Json
