import ModalLexer.Pattern.Reader
import Mathlib.Algebra.GroupWithZero.Nat
import Mathlib.Data.List.Basic
import Mathlib.Data.List.Infix

/-! # Readers and what stands behind a text

A fragment of a pattern is read by itself and again inside a group, where a closing parenthesis
or a bar stands behind it.  A reader is `Steady` if that makes no difference to it.  Blanks are
not steady: in verbose mode they may leave a comment open, which then swallows what stands
behind them.  So a reader that may end in blanks is `Inner`, steady if it leaves something over,
and becomes steady with a reader behind it that needs something to read. -/
set_option autoImplicit false
namespace ModalLexer.Reading

/-- What stands behind a pattern in a group: the sign that ends the group, or its first branch. -/
def EndsPattern (t : List Char) : Prop := ∃ rest, t = ')' :: rest ∨ t = '|' :: rest

variable {verbose : Bool} {cs left t : List Char}

/-! ## Blanks -/

theorem skipFrom_suffix (inComment : Bool) (cs : List Char) : skipFrom inComment cs <:+ cs := by
  fun_induction skipFrom inComment cs with
  | case1 => exact List.suffix_refl _
  | case2 c rest ih => exact ih.trans (List.suffix_cons c rest)
  | case3 inComment c rest code blank ih => exact ih.trans (List.suffix_cons c rest)
  | case4 inComment rest code blank ih => exact ih.trans (List.suffix_cons _ rest)
  | case5 => exact List.suffix_refl _

theorem skipBlank_suffix (verbose : Bool) (cs : List Char) : skipBlank verbose cs <:+ cs := by
  unfold skipBlank
  split
  · exact skipFrom_suffix false cs
  · exact List.suffix_refl cs

theorem skipFrom_append (t : List Char) (inComment : Bool) (cs : List Char)
    (more : skipFrom inComment cs ≠ []) :
    skipFrom inComment (cs ++ t) = skipFrom inComment cs ++ t := by
  fun_induction skipFrom inComment cs with
  | case1 => exact absurd rfl more
  | case2 c rest ih => simpa [skipFrom] using ih more
  | case3 inComment c rest code blank ih => simpa [skipFrom, code, blank] using ih more
  | case4 inComment rest code blank ih => simpa [skipFrom, code, blank] using ih more
  | case5 inComment c rest code solid sign => simp [skipFrom, code, solid, sign]

/-- A text of blanks may leave a comment open, which then goes on behind it. -/
theorem skipFrom_append_of_nil (inComment : Bool) (cs : List Char)
    (empty : skipFrom inComment cs = []) :
    ∃ leftOpen, ∀ t, skipFrom inComment (cs ++ t) = skipFrom leftOpen t := by
  fun_induction skipFrom inComment cs with
  | case1 inComment => exact ⟨inComment, fun t => rfl⟩
  | case2 c rest ih => simpa [skipFrom] using ih empty
  | case3 inComment c rest code blank ih => simpa [skipFrom, code, blank] using ih empty
  | case4 inComment rest code blank ih => simpa [skipFrom, code, blank] using ih empty
  | case5 => cases empty

theorem EndsPattern.skipFrom_eq (ends : EndsPattern t) : skipFrom false t = t := by
  obtain ⟨rest, rfl | rfl⟩ := ends
  · rfl
  · rfl

theorem skipBlank_append (more : skipBlank verbose cs ≠ []) :
    skipBlank verbose (cs ++ t) = skipBlank verbose cs ++ t := by
  cases verbose with
  | false => rfl
  | true => exact skipFrom_append t false cs more

theorem skipBlank_append_of_nil (empty : skipBlank verbose cs = []) :
    (∀ t, EndsPattern t → skipBlank verbose (cs ++ t) = t) ∨
      (verbose = true ∧ ∀ t, skipBlank verbose (cs ++ t) = skipFrom true t) := by
  cases verbose with
  | false =>
      obtain rfl : cs = [] := empty
      exact Or.inl fun t _ => rfl
  | true =>
      obtain ⟨leftOpen, onward⟩ := skipFrom_append_of_nil false cs empty
      cases leftOpen with
      | false => exact Or.inl fun t ends => (onward t).trans ends.skipFrom_eq
      | true => exact Or.inr ⟨rfl, onward⟩

theorem collectFrom_suffix (verbose : Bool) (stops : Char → Bool) (inComment : Bool)
    (cs : List Char) : (collectFrom verbose stops inComment cs).2 <:+ cs := by
  fun_induction collectFrom verbose stops inComment cs with
  | case1 => exact List.suffix_refl _
  | case2 c rest ih => exact ih.trans (List.suffix_cons c rest)
  | case3 inComment c rest code blank ih => exact ih.trans (List.suffix_cons c rest)
  | case4 inComment c rest code solid sign ih => exact ih.trans (List.suffix_cons c rest)
  | case5 => exact List.suffix_refl _
  | case6 inComment c rest code solid sign onward read left found ih =>
      rw [found] at ih
      exact ih.trans (List.suffix_cons c rest)

theorem collectFrom_append (t : List Char) (verbose : Bool) (stops : Char → Bool)
    (inComment : Bool) (cs : List Char) (more : (collectFrom verbose stops inComment cs).2 ≠ []) :
    collectFrom verbose stops inComment (cs ++ t) =
      ((collectFrom verbose stops inComment cs).1,
        (collectFrom verbose stops inComment cs).2 ++ t) := by
  fun_induction collectFrom verbose stops inComment cs with
  | case1 => exact absurd rfl more
  | case2 c rest ih => simpa [collectFrom] using ih more
  | case3 inComment c rest code blank ih => simpa [collectFrom, code, blank] using ih more
  | case4 inComment c rest code solid sign ih =>
      simpa [collectFrom, code, solid, sign] using ih more
  | case5 inComment c rest code solid sign stop => simp [collectFrom, code, solid, sign, stop]
  | case6 inComment c rest code solid sign onward read left found ih =>
      rw [found] at ih
      simp [collectFrom, code, solid, sign, onward, ih more]

theorem collect_suffix {stops : Char → Bool} {read : List Char}
    (found : collect verbose stops cs = (read, left)) : left <:+ cs := by
  have suffix := collectFrom_suffix verbose stops false cs
  rw [show collectFrom verbose stops false cs = (read, left) from found] at suffix
  exact suffix

theorem collect_append {stops : Char → Bool} {read : List Char}
    (found : collect verbose stops cs = (read, left)) (more : left ≠ []) :
    collect verbose stops (cs ++ t) = (read, left ++ t) := by
  have whole := collectFrom_append t verbose stops false cs
  rw [show collectFrom verbose stops false cs = (read, left) from found] at whole
  exact whole more

theorem dropWhile_append {p : Char → Bool} (more : cs.dropWhile p ≠ []) :
    (cs ++ t).dropWhile p = cs.dropWhile p ++ t := by
  rw [List.dropWhile_append, if_neg (by simpa using more)]

theorem readCount?_suffix {n : Nat} (read : readCount? verbose cs = some (n, left)) :
    left <:+ cs := by
  unfold readCount? at read
  split at read
  · cases read
  · next digits behind _ found =>
      simp only at read
      split at read
      · obtain ⟨rfl, rfl⟩ := Prod.mk.inj (Option.some.inj read)
        exact ((List.dropWhile_suffix _).trans (collect_suffix found)).trans
          (List.dropWhile_suffix _)
      · cases read

theorem readCount?_append {n : Nat} (read : readCount? verbose cs = some (n, left))
    (more : left ≠ []) : readCount? verbose (cs ++ t) = some (n, left ++ t) := by
  unfold readCount? at read ⊢
  split at read
  · cases read
  · next digits behind digitless found =>
      simp only at read
      split at read
      · next small =>
          obtain ⟨rfl, rfl⟩ := Prod.mk.inj (Option.some.inj read)
          have behindMore : behind ≠ [] := fun nil => more (by rw [nil]; rfl)
          have digitsFirst : cs.dropWhile Unicode.isSpace ≠ [] := by
            intro nil
            rw [nil] at found
            obtain ⟨rfl, rfl⟩ := Prod.mk.inj found
            exact behindMore rfl
          rw [dropWhile_append digitsFirst, collect_append found behindMore]
          simp only [small, if_true, dropWhile_append more]
      · cases read

/-! ## Readers that look at nothing behind what they take -/

/-- What a reader takes off a text is the same if a pattern ends behind the text. -/
def Steady {α : Type} (read : List Char → Option (α × List Char)) : Prop :=
  ∀ cs a left, read cs = some (a, left) →
    left <:+ cs ∧ ∀ t, EndsPattern t → read (cs ++ t) = some (a, left ++ t)

/-- What a reader takes off a text is the same if a pattern ends behind the text, unless it
takes all of the text. -/
def Inner {α : Type} (read : List Char → Option (α × List Char)) : Prop :=
  ∀ cs a left, read cs = some (a, left) →
    left <:+ cs ∧ (left ≠ [] → ∀ t, EndsPattern t → read (cs ++ t) = some (a, left ++ t))

section Combination

variable {α β : Type}

theorem steady_some (a : α) : Steady fun cs => some (a, cs) := by
  intro cs b left found
  obtain ⟨rfl, rfl⟩ := Prod.mk.inj (Option.some.inj found)
  exact ⟨List.suffix_refl _, fun t _ => rfl⟩

theorem steady_none : Steady fun _ : List Char => (none : Option (α × List Char)) := by
  intro cs a left found
  cases found

theorem inner_skipBlank (verbose : Bool) : Inner fun cs => some ((), skipBlank verbose cs) := by
  intro cs a left found
  obtain ⟨_, rfl⟩ := Prod.mk.inj (Option.some.inj found)
  exact ⟨skipBlank_suffix verbose cs, fun more t _ => by simp only [skipBlank_append more]⟩

theorem Inner.bind {read : List Char → Option (α × List Char)}
    {onward : α → List Char → Option (β × List Char)} (first : Inner read)
    (later : ∀ a, Inner (onward a)) :
    Inner fun cs => (read cs).bind fun (a, mid) => onward a mid := by
  intro cs b left found
  obtain ⟨⟨a, mid⟩, begun, ended⟩ := Option.bind_eq_some_iff.1 found
  obtain ⟨shorter, goesOn⟩ := first cs a mid begun
  obtain ⟨shorterStill, goesOnStill⟩ := later a mid b left ended
  refine ⟨shorterStill.trans shorter, ?_⟩
  intro more t ends
  have midMore : mid ≠ [] := by
    rintro rfl
    exact more (List.suffix_nil.1 shorterStill)
  simp only [goesOn midMore t ends, Option.bind_some]
  exact goesOnStill more t ends

theorem Inner.bind_steady {read : List Char → Option (α × List Char)}
    {onward : α → List Char → Option (β × List Char)} (first : Inner read)
    (later : ∀ a, Steady (onward a)) (refuses : ∀ a, onward a [] = none) :
    Steady fun cs => (read cs).bind fun (a, mid) => onward a mid := by
  intro cs b left found
  obtain ⟨⟨a, mid⟩, begun, ended⟩ := Option.bind_eq_some_iff.1 found
  obtain ⟨shorter, goesOn⟩ := first cs a mid begun
  obtain ⟨shorterStill, goesOnStill⟩ := later a mid b left ended
  refine ⟨shorterStill.trans shorter, ?_⟩
  intro t ends
  have midMore : mid ≠ [] := by
    rintro rfl
    exact absurd ((refuses a).symm.trans ended) nofun
  simp only [goesOn midMore t ends, Option.bind_some]
  exact goesOnStill t ends

theorem Steady.bind {read : List Char → Option (α × List Char)}
    {onward : α → List Char → Option (β × List Char)} (first : Steady read)
    (later : ∀ a, Steady (onward a)) :
    Steady fun cs => (read cs).bind fun (a, mid) => onward a mid := by
  intro cs b left found
  obtain ⟨⟨a, mid⟩, begun, ended⟩ := Option.bind_eq_some_iff.1 found
  obtain ⟨shorter, goesOn⟩ := first cs a mid begun
  obtain ⟨shorterStill, goesOnStill⟩ := later a mid b left ended
  refine ⟨shorterStill.trans shorter, ?_⟩
  intro t ends
  simp only [goesOn t ends, Option.bind_some]
  exact goesOnStill t ends

theorem Steady.map {read : List Char → Option (α × List Char)} (steady : Steady read)
    (f : α → β) : Steady fun cs => (read cs).map fun (a, left) => (f a, left) := by
  intro cs b left found
  obtain ⟨⟨a, behind⟩, taken, same⟩ := Option.map_eq_some_iff.1 found
  obtain ⟨rfl, rfl⟩ := Prod.mk.inj same
  obtain ⟨shorter, goesOn⟩ := steady cs a behind taken
  exact ⟨shorter, fun t ends => by simp [goesOn t ends]⟩

theorem Steady.of_cons {read : List Char → Option (α × List Char)} (refuses : read [] = none)
    (each : ∀ c, Steady fun rest => read (c :: rest)) : Steady read := by
  intro cs a left found
  cases cs with
  | nil => rw [refuses] at found; cases found
  | cons c rest =>
      obtain ⟨shorter, goesOn⟩ := each c rest a left found
      exact ⟨shorter.trans (List.suffix_cons c rest), goesOn⟩

/-- A reader of a character and of what follows it. -/
def headThen? (next : Char → List Char → Option (α × List Char)) :
    List Char → Option (α × List Char)
  | [] => none
  | c :: rest => next c rest

theorem Steady.headThen? {next : Char → List Char → Option (α × List Char)}
    (each : ∀ c, Steady (next c)) : Steady (headThen? next) := .of_cons rfl each

theorem Steady.branch {read other : List Char → Option (α × List Char)} (c : Char)
    (refuses : read [] = none) (taken : Steady fun rest => read (c :: rest)) (steady : Steady other)
    (same : ∀ d rest, d ≠ c → read (d :: rest) = other (d :: rest)) : Steady read := by
  intro cs a left found
  cases cs with
  | nil => rw [refuses] at found; cases found
  | cons d rest =>
      by_cases branch : d = c
      · subst branch
        obtain ⟨shorter, goesOn⟩ := taken rest a left found
        exact ⟨shorter.trans (List.suffix_cons d rest), goesOn⟩
      · rw [same d rest branch] at found
        obtain ⟨shorter, goesOn⟩ := steady (d :: rest) a left found
        refine ⟨shorter, ?_⟩
        intro t ends
        rw [List.cons_append, same d (rest ++ t) branch]
        exact goesOn t ends

theorem steady_option (o : Option α) : Steady fun left => o.map fun a => (a, left) := by
  cases o with
  | none => exact steady_none
  | some a => exact steady_some a

end Combination

end ModalLexer.Reading
