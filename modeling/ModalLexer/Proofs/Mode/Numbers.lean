import ModalLexer.Proofs.Mode.Alike

/-! # Modes by name and by number

The modes of a lexer have different names, and compiled modes stand where the given ones do.  So the
number that a name is resolved to leads back to the mode of that name
(`Lexer.modeName_of_modeNumber?`). -/
set_option autoImplicit false
namespace ModalLexer

theorem find?_of_nodup_map {α : Type} {key : α → String} {xs : List α} {x : α}
    (distinct : (xs.map key).Nodup) (member : x ∈ xs) : xs.find? (key · = key x) = some x := by
  cases found : xs.find? (key · = key x) with
  | none =>
      have absent := List.find?_eq_none.1 found x member
      simp at absent
  | some y =>
      have same : key y = key x := by simpa using List.find?_some found
      rw [List.inj_on_of_nodup_map distinct (List.mem_of_find?_eq_some found) member same]

variable {σ τ : Type}

namespace Lexer

section Named

variable {f : Mode σ → Mode τ} (named : ∀ m, (f m).name = m.name)

include named

theorem repeatedName?_map (seen : List String) (modes : List (Mode σ)) :
    repeatedName? seen (modes.map f) = repeatedName? seen modes := by
  induction modes generalizing seen with
  | nil => rfl
  | cons m rest ih => simp only [List.map_cons, repeatedName?, named, ih]

/-- Modes keep their numbers if they keep their names. -/
theorem modeNumber?_map (modes : List (Mode σ)) :
    modeNumber? (modes.map f) = modeNumber? modes := by
  funext name
  simp only [modeNumber?, List.findIdx?_map, Function.comp_def, named]

end Named

theorem distinct_of_repeatedName?_eq_none {seen : List String} {modes : List (Mode σ)}
    (fresh : repeatedName? seen modes = none) :
    (modes.map Mode.name).Nodup ∧ ∀ name ∈ modes.map Mode.name, name ∉ seen := by
  induction modes generalizing seen with
  | nil => exact ⟨.nil, nofun⟩
  | cons m rest ih =>
      rw [repeatedName?] at fresh
      split at fresh
      · cases fresh
      · next new =>
          obtain ⟨distinct, others⟩ := ih fresh
          have unseen : m.name ∉ seen := by simpa using new
          refine ⟨List.nodup_cons.2 ⟨?_, distinct⟩, ?_⟩
          · intro again
            exact others m.name again List.mem_cons_self
          · intro name member
            rcases List.mem_cons.1 member with rfl | later
            · exact unseen
            · intro old
              exact others name later (List.mem_cons_of_mem _ old)

variable {modes : List (Mode σ)} {l : Lexer σ}

theorem distinct_of_ofModes (ok : ofModes modes = .ok l) : (modes.map Mode.name).Nodup :=
  (distinct_of_repeatedName?_eq_none (repeatedName?_of_ofModes ok)).1

/-- The number of a name is that of the mode that bears it. -/
theorem modeNumber?_eq_some_iff (distinct : (modes.map Mode.name).Nodup) {name : String}
    {i : Nat} : modeNumber? modes name = some i ↔ ∃ m, modes[i]? = some m ∧ m.name = name := by
  rw [modeNumber?, List.findIdx?_eq_some_iff_getElem]
  constructor
  · rintro ⟨inside, named, -⟩
    exact ⟨modes[i], List.getElem?_eq_getElem inside, by simpa using named⟩
  · rintro ⟨m, found, rfl⟩
    obtain ⟨inside, rfl⟩ := List.getElem?_eq_some_iff.1 found
    refine ⟨inside, by simp, ?_⟩
    intro j before same
    have equal : modes[j].name = modes[i].name := by simpa using same
    have bound : j < (modes.map Mode.name).length := by simp; omega
    have bound' : i < (modes.map Mode.name).length := by simpa using inside
    have names : (modes.map Mode.name)[j] = (modes.map Mode.name)[i] := by simpa using equal
    have index := distinct.getElem_inj_iff.1 names
    omega

theorem exists_compiled (ok : ofModes modes = .ok l) {i : Nat} {m : Mode σ}
    (found : modes[i]? = some m) : ∃ c, l.modes[i]? = some c ∧
      CompiledMode.compile m.name m.rules (modeNumber? modes) = .ok c :=
  exists_getElem?_of_forall₂ (compileEach_eq (compileEach_of_ofModes ok).2) found

theorem exists_mode (ok : ofModes modes = .ok l) {i : Nat} {c : CompiledMode σ}
    (found : l.modes[i]? = some c) : ∃ m, modes[i]? = some m ∧
      CompiledMode.compile m.name m.rules (modeNumber? modes) = .ok c :=
  exists_getElem?_of_forall₂ (compileEach_eq (compileEach_of_ofModes ok).2).flip found

theorem modeName_of_getElem? (ok : ofModes modes = .ok l) {i : Nat} {m : Mode σ}
    (found : modes[i]? = some m) : l.modeName i = m.name := by
  obtain ⟨c, found', made⟩ := exists_compiled ok found
  simp only [modeName, found']
  exact CompiledMode.name_of_compile made

/-- A name that is resolved to a number is the name of the mode with that number. -/
theorem modeName_of_modeNumber? (ok : ofModes modes = .ok l) {name : String} {i : Nat}
    (found : modeNumber? modes name = some i) : l.modeName i = name := by
  obtain ⟨m, there, rfl⟩ := (modeNumber?_eq_some_iff (distinct_of_ofModes ok)).1 found
  exact modeName_of_getElem? ok there

end Lexer

end ModalLexer
