import ModalLexer.Proofs.Reading.Steady

/-! # Escapes are read alike whatever ends the pattern behind them -/
set_option autoImplicit false
namespace ModalLexer.Reading

variable {verbose : Bool} {cs left t : List Char}

theorem takeSpaced?_steady (verbose : Bool) (n : Nat) : Steady (takeSpaced? verbose n) := by
  induction n with
  | zero => exact steady_some []
  | succ n ih =>
      have each := Steady.headThen? fun c => ih.map (c :: ·)
      exact (inner_skipBlank verbose).bind_steady (fun _ => each) fun _ => rfl

theorem cutAt?_steady (sep : Char) : Steady (cutAt? sep) := by
  intro cs name left found
  induction cs generalizing name with
  | nil => cases found
  | cons c rest ih =>
      by_cases stop : c = sep
      · rw [cutAt?, if_pos stop] at found
        obtain ⟨rfl, rfl⟩ := Prod.mk.inj (Option.some.inj found)
        exact ⟨List.suffix_cons c _, fun t _ => by rw [List.cons_append, cutAt?, if_pos stop]⟩
      · rw [cutAt?, if_neg stop] at found
        obtain ⟨⟨front, behind⟩, cut, same⟩ := Option.map_eq_some_iff.1 found
        obtain ⟨rfl, rfl⟩ := Prod.mk.inj same
        obtain ⟨shorter, goesOn⟩ := ih front cut
        refine ⟨shorter.trans (List.suffix_cons c rest), ?_⟩
        intro t ends
        rw [List.cons_append, cutAt?, if_neg stop, goesOn t ends, Option.map_some]

/-- Reads a text up to a closing brace and makes something of it. -/
def readBraced? {α : Type} (verbose : Bool) (f : List Char → Option α) (inside : List Char) :
    Option (α × List Char) :=
  match collect verbose (· = '\x7d') inside with
  | (read, _ :: left) => (f read).map fun a => (a, left)
  | (_, []) => none

theorem readBraced?_steady {α : Type} (verbose : Bool) (f : List Char → Option α) :
    Steady (readBraced? verbose f) := by
  intro cs a left found
  unfold readBraced? at found
  split at found
  · next read closing behind collected =>
      obtain ⟨b, made, same⟩ := Option.map_eq_some_iff.1 found
      obtain ⟨rfl, rfl⟩ := Prod.mk.inj same
      refine ⟨(List.suffix_cons _ _).trans (collect_suffix collected), ?_⟩
      intro t ends
      simp [readBraced?, collect_append (t := t) collected (List.cons_ne_nil _ _), made]
  · cases found

/-- Reads the code of a character behind the blanks, and whether it stands in braces. -/
def readCodeBody? (verbose : Bool) (width : Nat) :
    List Char → Option ((Char × Bool) × List Char)
  | [] => none
  | c :: rest =>
      if c = '\x7b' then
        readBraced? verbose (fun digits => (codeOfDigits? digits).map fun d => (d, true)) rest
      else
        (takeSpaced? verbose width (c :: rest)).bind fun (digits, left) =>
          ((codeOfDigits? digits).map fun d => (d, false)).map fun a => (a, left)

theorem readCodeBody?_steady (verbose : Bool) (width : Nat) :
    Steady (readCodeBody? verbose width) := by
  have spaced : Steady fun cs => (takeSpaced? verbose width cs).bind fun (digits, left) =>
      ((codeOfDigits? digits).map fun c => (c, false)).map fun a => (a, left) :=
    (takeSpaced?_steady verbose width).bind fun digits =>
      steady_option ((codeOfDigits? digits).map fun c => (c, false))
  refine .branch '\x7b' rfl (readBraced?_steady verbose _) spaced ?_
  intro c rest other
  simp only [readCodeBody?, if_neg other]

theorem readCode?_eq (verbose : Bool) (width : Nat) (cs : List Char) :
    readCode? verbose width cs = (readCodeBody? verbose width (skipBlank verbose cs)).map
      fun x => (x.1.1, x.1.2, x.2) := by
  unfold readCode?
  split
  · next inside braced =>
      rw [braced]
      simp only [readCodeBody?, if_true, readBraced?]
      generalize collect verbose (· = '\x7d') inside = collected
      obtain ⟨digits, _ | ⟨_, left⟩⟩ := collected
      · rfl
      · dsimp only
        cases codeOfDigits? digits <;> rfl
  · next other =>
      cases begun : skipBlank verbose cs with
      | nil => cases width <;> cases verbose <;> rfl
      | cons c rest =>
          have plain : c ≠ '\x7b' := fun same => other rest (by rw [begun, same])
          simp only [readCodeBody?, if_neg plain]
          cases takeSpaced? verbose width (c :: rest) with
          | none => rfl
          | some taken =>
              cases code : codeOfDigits? taken.1 with
              | none => simp [code]
              | some d => simp [code]

theorem readCode?_steady (verbose : Bool) (width : Nat) (f : Char × Bool → Atom) :
    Steady fun cs => (readCode? verbose width cs).map fun x => (f (x.1, x.2.1), x.2.2) := by
  have body : Steady fun cs => (some ((), skipBlank verbose cs)).bind fun (_, ds) =>
      (readCodeBody? verbose width ds).map fun (c, left) => (f c, left) :=
    (inner_skipBlank verbose).bind_steady (fun _ => (readCodeBody?_steady verbose width).map f)
      fun _ => rfl
  convert body using 2 with cs
  rw [readCode?_eq, Option.map_map]
  rfl

/-- Reads what `\p` asks for behind the blanks. -/
def readPropertyBody? (verbose negated : Bool) : List Char → Option (Atom × List Char)
  | [] => none
  | c :: rest =>
      if c = '\x7b' then
        readBraced? verbose (fun name =>
          some (.property (propertyQuery name).1 (negated != (propertyQuery name).2))) rest
      else if c = '\\' then none
      else some (.property (.named [c]) negated, rest)

theorem readPropertyBody?_steady (verbose negated : Bool) :
    Steady (readPropertyBody? verbose negated) := by
  refine .of_cons rfl ?_
  intro c
  simp only [readPropertyBody?]
  split
  · exact readBraced?_steady verbose _
  · split
    · exact steady_none
    · exact steady_some _

theorem readProperty?_eq (verbose negated : Bool) (cs : List Char) :
    readProperty? verbose negated cs =
      readPropertyBody? verbose negated (skipBlank verbose cs) := by
  unfold readProperty?
  split
  · next blank => rw [blank]; rfl
  · next inside braced =>
      rw [braced]
      simp only [readPropertyBody?, if_true, readBraced?]
      split <;> simp_all
  · next c left other begun =>
      rw [begun]
      simp only [readPropertyBody?, if_neg other]

theorem readProperty?_steady (verbose negated : Bool) : Steady (readProperty? verbose negated) := by
  have body : Steady fun cs => (some ((), skipBlank verbose cs)).bind fun (_, ds) =>
      readPropertyBody? verbose negated ds :=
    (inner_skipBlank verbose).bind_steady (fun _ => readPropertyBody?_steady verbose negated)
      fun _ => rfl
  convert body using 2 with cs
  exact readProperty?_eq verbose negated cs

/-- Reads the name of a word edge behind its opening brace, or leaves the brace to be read as
the beginning of a repetition. -/
theorem readEdge?_braced {inside : List Char} {a : Atom}
    (found : readEdge? verbose ('\x7b' :: inside) = some (a, left)) :
    left <:+ '\x7b' :: inside ∧
      ∀ t, readEdge? verbose ('\x7b' :: (inside ++ t)) = some (a, left ++ t) := by
  simp only [readEdge?] at found
  split at found
  · cases found
  · next first more begun =>
      have onward (t : List Char) : skipBlank verbose (inside ++ t) = first :: (more ++ t) := by
        rw [skipBlank_append (begun ▸ List.cons_ne_nil first more), begun]
        rfl
      split at found
      · next edge =>
          split at found
          · next name behind read =>
              obtain ⟨kind, known, same⟩ := Option.map_eq_some_iff.1 found
              obtain ⟨rfl, rfl⟩ := Prod.mk.inj same
              have suffix : behind <:+ inside :=
                ((List.suffix_cons _ _).trans (collect_suffix read)).trans
                  (begun ▸ skipBlank_suffix verbose inside)
              refine ⟨suffix.trans (List.suffix_cons _ _), ?_⟩
              intro t
              have readOn := collect_append (t := t) read (List.cons_ne_nil _ _)
              rw [List.cons_append] at readOn
              simp [readEdge?, onward t, edge, readOn, known]
          · cases found
      · next edge =>
          obtain ⟨rfl, rfl⟩ := Prod.mk.inj (Option.some.inj found)
          refine ⟨List.suffix_refl _, ?_⟩
          intro t
          simp [readEdge?, onward t, edge]

theorem readEdge?_plain (other : ∀ inside, cs ≠ '\x7b' :: inside) :
    readEdge? verbose cs = some (.assertion (.word .boundary), cs) := by
  unfold readEdge?
  split
  · exact absurd rfl (other _)
  · rfl

theorem readEdge?_steady (verbose : Bool) : Steady (readEdge? verbose) := by
  intro cs a left found
  by_cases braced : ∃ inside, cs = '\x7b' :: inside
  · obtain ⟨inside, rfl⟩ := braced
    exact ⟨(readEdge?_braced found).1, fun t _ => (readEdge?_braced found).2 t⟩
  · have other : ∀ inside, cs ≠ '\x7b' :: inside := fun inside same =>
      braced ⟨inside, same⟩
    rw [readEdge?_plain other] at found
    obtain ⟨rfl, rfl⟩ := Prod.mk.inj (Option.some.inj found)
    refine ⟨List.suffix_refl _, fun t ends => readEdge?_plain fun inside same => ?_⟩
    cases cs with
    | nil => obtain ⟨rest, rfl | rfl⟩ := ends <;> simp at same
    | cons c rest => exact other rest (by rw [(List.cons.inj same).1])

theorem readEscape?_steady (verbose : Bool) : Steady (readEscape? verbose) := by
  refine .of_cons rfl ?_
  intro c
  simp only [readEscape?]
  split
  · exact readCode?_steady verbose 2 fun code => .literal code.1 (!code.2)
  · exact readCode?_steady verbose 4 fun code => .literal code.1 false
  · exact readCode?_steady verbose 8 fun code => .literal code.1 false
  · exact readProperty?_steady verbose false
  · exact readProperty?_steady verbose true
  · exact steady_some _
  · exact steady_some _
  · exact steady_some _
  · exact steady_some _
  · exact steady_some _
  · exact steady_some _
  · exact steady_some _
  · exact steady_some _
  · exact readEdge?_steady verbose
  · exact steady_some _
  · exact steady_some _
  · exact steady_some _
  · split
    · exact steady_some _
    · convert (steady_option (control? c)).map fun d => Atom.literal d false using 2 with rest
      rw [Option.map_map]
      rfl

end ModalLexer.Reading
