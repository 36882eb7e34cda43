import ModalLexer.Proofs.Mode.Numbers
import ModalLexer.Proofs.Scan.Mirrored
import ModalLexer.Proofs.Scan.Termination

/-! # Only the place of the first mode matters

Modes refer to each other by name, and which of them is the first decides where a scan begins.  If
the modes of a lexer are put in another order behind the first, or others are added, then only their
numbers change.  Scanners of both lexers stand in modes of the same name and give the same
(`Scanner.performs_reordered`). -/
set_option autoImplicit false
namespace ModalLexer

variable {σ : Type}

namespace Lexer

def SameMode (modes modes' : List (Mode σ)) (i j : Nat) : Prop :=
  ∃ m, modes[i]? = some m ∧ modes'[j]? = some m

/-- Entries that do the same, if modes correspond in this way. -/
structure SameEntry (modes modes' : List (Mode σ)) (e e' : Entry σ) : Prop where
  mirrors : e.Mirrors (SameMode modes modes') e'
  discard : e'.discard = e.discard
  value : e'.value = e.value

/-- One lexer has the modes of another among its own, and begins with the same one. -/
structure Reordered (modes modes' : List (Mode σ)) : Prop where
  first : modes'.head? = modes.head?
  among : ∀ m ∈ modes, m ∈ modes'

section Reordering

variable {modes modes' : List (Mode σ)} {l l' : Lexer σ} (ok : ofModes modes = .ok l)
  (ok' : ofModes modes' = .ok l') (reordered : Reordered modes modes')

include ok ok' reordered

theorem sameMode_of_modeNumber? (name : String) (i j : Nat)
    (found : modeNumber? modes name = some i) (found' : modeNumber? modes' name = some j) :
    SameMode modes modes' i j := by
  obtain ⟨m, there, named⟩ := (modeNumber?_eq_some_iff (distinct_of_ofModes ok)).1 found
  obtain ⟨m', there', named'⟩ := (modeNumber?_eq_some_iff (distinct_of_ofModes ok')).1 found'
  have inside := reordered.among m (List.mem_of_getElem? there)
  have same : m' = m := List.inj_on_of_nodup_map (distinct_of_ofModes ok')
    (List.mem_of_getElem? there') inside (named'.trans named.symm)
  exact ⟨m, there, by rw [there', same]⟩

/-- The same mode is compiled to the same pattern, and its rules to entries that do the same. -/
theorem compiled_mirrors {m : Mode σ} {c c' : CompiledMode σ}
    (made : CompiledMode.compile m.name m.rules (modeNumber? modes) = .ok c)
    (made' : CompiledMode.compile m.name m.rules (modeNumber? modes') = .ok c') :
    c.Mirrors (SameEntry modes modes') c' := by
  have alike : ∀ rule rule' : Rule σ, rule = rule' → rule.Alike rule' := by
    rintro rule _ rfl
    exact .refl rule
  have related : List.Forall₂ Eq m.rules m.rules := by rw [List.forall₂_eq_eq_eq]
  obtain ⟨other, again, pattern, twins⟩ := CompiledMode.compile_alike m.name alike related
    (fun _ => CompiledMode.exists_jump made') made
  obtain rfl := Except.ok.inj (made'.symm.trans again)
  have name := (CompiledMode.name_of_compile made').trans (CompiledMode.name_of_compile made).symm
  refine ⟨name, pattern, twins.imp ?_⟩
  rintro e e' ⟨slots, rule, _, rfl, follows, follows'⟩
  have jumps := CompiledMode.jump_mirrors (sameMode_of_modeNumber? ok ok' reordered) rfl
    follows.jump follows'.jump
  refine ⟨⟨?_, slots, ?_, ?_, jumps⟩, ?_, ?_⟩
  · exact follows'.kind.trans follows.kind.symm
  · exact follows'.error.trans follows.error.symm
  · exact follows'.lineBreaks.trans follows.lineBreaks.symm
  · exact follows'.discard.trans follows.discard.symm
  · exact follows'.value.trans follows.value.symm

theorem mirrors_of_reordered : l.Mirrors (SameMode modes modes') (SameEntry modes modes') l' := by
  refine ⟨fun e e' same => same.mirrors, ?_⟩
  rintro i j ⟨m, there, there'⟩
  obtain ⟨c, found, made⟩ := exists_compiled ok there
  obtain ⟨c', found', made'⟩ := exists_compiled ok' there'
  rw [found, found']
  exact .some (compiled_mirrors ok ok' reordered made made')

omit reordered in
theorem modeName_of_sameMode {i j : Nat} (same : SameMode modes modes' i j) :
    l'.modeName j = l.modeName i := by
  obtain ⟨m, there, there'⟩ := same
  rw [modeName_of_getElem? ok there, modeName_of_getElem? ok' there']

end Reordering

end Lexer

namespace Scanner

variable {l l' : Lexer σ} {s s' : Scanner} {modes modes' : List (Mode σ)}

/-! ## Operations -/

inductive Operation
  | scan (text : List Char)
  | request (request : Request)

structure View where
  checkpoint : Checkpoint
  mode : String
  depth : Nat
  done : Bool

def view (l : Lexer σ) (s : Scanner) : View := ⟨s.save, l.modeName s.active, s.depth, s.done⟩

def perform (l : Lexer σ) (s : Scanner) (state : σ) : Operation → Option Reply × Scanner × σ
  | .scan text => (none, .start text, state)
  | .request request =>
      let (reply, t, after) := s.answer l state request
      (some reply, t, after)

/-- Carries out operations one after the other, and looks at the scanner after each. -/
def performs (l : Lexer σ) :
    Scanner → σ → List Operation → List (Option Reply × View) × Scanner × σ
  | s, state, [] => ([], s, state)
  | s, state, operation :: rest =>
      let (reply, t, after) := s.perform l state operation
      let (replies, last) := performs l t after rest
      ((reply, t.view l) :: replies, last)

section Reordering

variable (ok : Lexer.ofModes modes = .ok l) (ok' : Lexer.ofModes modes' = .ok l')

include ok ok'

theorem view_eq_of_mirrors (mirrors : s.Mirrors (Lexer.SameMode modes modes') s') :
    s'.view l' = s.view l := by
  obtain ⟨spot, location, done, -, active, stack⟩ := mirrors
  have depth : s'.depth = s.depth := stack.length_eq.symm
  rw [view, view, save, save, offset, offset, spot, location, done, depth,
    Lexer.modeName_of_sameMode ok ok' active]

variable (reordered : Lexer.Reordered modes modes')

include reordered

omit ok' in
theorem start_mirrors (text : List Char) :
    (start text).Mirrors (Lexer.SameMode modes modes') (start text) := by
  obtain ⟨some_mode, -⟩ := Lexer.compileEach_of_ofModes ok
  obtain ⟨m, rest, rfl⟩ := List.exists_cons_of_ne_nil some_mode
  have first' : modes'[0]? = some m := List.head?_eq_getElem?.symm.trans reordered.first
  exact ⟨rfl, rfl, rfl, rfl, ⟨m, rfl, first'⟩, .nil⟩

theorem perform_mirrors (mirrors : s.Mirrors (Lexer.SameMode modes modes') s') (state : σ)
    (operation : Operation) : ∃ reply t t' after,
      s.perform l state operation = (reply, t, after) ∧
      s'.perform l' state operation = (reply, t', after) ∧
      t.Mirrors (Lexer.SameMode modes modes') t' := by
  cases operation with
  | scan text => exact ⟨none, _, _, state, rfl, rfl, start_mirrors ok reordered text⟩
  | request request =>
      cases request with
      | next =>
          obtain ⟨turns, call⟩ := next_spec l s state
          obtain ⟨turns', t', call', there⟩ :=
            call.mirrors (Lexer.mirrors_of_reordered ok ok' reordered)
              (fun e e' same => ⟨same.discard, same.value⟩) mirrors
          refine ⟨some (.item (s.next l state).1), _, t', (s.next l state).2.2, rfl, ?_, there⟩
          simp only [perform, answer, call'.next_eq]
      | reset text checkpoint =>
          obtain ⟨result, there⟩ := mirrors.reset text checkpoint
          refine ⟨some (.reset (s.reset text checkpoint).1), _, _, state, rfl, ?_, there⟩
          rw [← result]
          rfl

theorem performs_mirrors (mirrors : s.Mirrors (Lexer.SameMode modes modes') s') (state : σ)
    (operations : List Operation) :
    (performs l' s' state operations).1 = (performs l s state operations).1 ∧
    (performs l' s' state operations).2.2 = (performs l s state operations).2.2 ∧
    (performs l s state operations).2.1.Mirrors (Lexer.SameMode modes modes')
      (performs l' s' state operations).2.1 := by
  induction operations generalizing s s' state with
  | nil => exact ⟨rfl, rfl, mirrors⟩
  | cons operation rest ih =>
      obtain ⟨reply, t, t', after, first, first', there⟩ :=
        perform_mirrors ok ok' reordered mirrors state operation
      obtain ⟨replies, states, last⟩ := ih there after
      refine ⟨?_, ?_, ?_⟩
      · simp only [performs, first, first', replies, view_eq_of_mirrors ok ok' there]
      · simp only [performs, first, first', states]
      · simp only [performs, first, first']
        exact last

end Reordering

/-- Two lists of modes compile, the second has the modes of the first and perhaps others, in any
order, and both begin with the same one.

Whatever is done with a lexer and a scanner of it, that a scan is begun, a token asked for or the
scanner turned to another text or place, gives the same for both: the same tokens and errors, and at
every step the same checkpoint, the same mode by name and the same depth. -/
theorem performs_reordered {modes modes' : List (Mode σ)} {l l' : Lexer σ}
    (ok : Lexer.ofModes modes = .ok l) (ok' : Lexer.ofModes modes' = .ok l')
    (reordered : Lexer.Reordered modes modes') (text : List Char) (state : σ)
    (operations : List Operation) :
    (start text).view l' = (start text).view l ∧
    (performs l' (.start text) state operations).1 = (performs l (.start text) state operations).1 ∧
    (performs l' (.start text) state operations).2.2 =
      (performs l (.start text) state operations).2.2 := by
  have mirrors := start_mirrors ok reordered text
  obtain ⟨replies, states, -⟩ := performs_mirrors ok ok' reordered mirrors state operations
  exact ⟨view_eq_of_mirrors ok ok' mirrors, replies, states⟩

def wordMode : Mode Unit :=
  ⟨"main", [.regex "word" "a+", (Rule.literal "open" "<").push "inner"]⟩

def digitMode : Mode Unit :=
  ⟨"inner", [.regex "digit" "[0-9]", (Rule.literal "hash" "#").push "comment",
    (Rule.literal "close" ">").pop]⟩

def commentMode : Mode Unit := ⟨"comment", [((Rule.literal "end" ".").pop).discard]⟩

def threeModes : List (Mode Unit) := [wordMode, digitMode, commentMode]

def fourModes : List (Mode Unit) :=
  [wordMode, commentMode, ⟨"unused", [.literal "never" "a"]⟩, digitMode]

/-- The numbers of the active and of the suspended modes differ, and nothing else does. -/
theorem fourModes_performs : ∃ l l', Lexer.ofModes threeModes = .ok l ∧
    Lexer.ofModes fourModes = .ok l' ∧ Lexer.Reordered threeModes fourModes ∧
    ∃ operations : List Operation,
      (performs l' (.start "a<1#".toList) () operations).1 =
        (performs l (.start "a<1#".toList) () operations).1 ∧
      (performs l (.start "a<1#".toList) () operations).2.1.stack = [1, 0] ∧
      (performs l' (.start "a<1#".toList) () operations).2.1.stack = [3, 0] := by
  let operations : List Operation :=
    [.request .next, .request .next, .scan "<2#.#".toList, .request .next, .request .next,
      .request .next, .request (.reset ".>".toList (some ⟨1, 9, 7⟩)),
      .request (.reset ".#".toList none), .request .next]
  obtain ⟨l, ok, stack⟩ := exists_of_any (x := Lexer.ofModes threeModes)
    (p := fun l => (performs l (.start "a<1#".toList) () operations).2.1.stack = [1, 0]) (by decide)
  obtain ⟨l', ok', stack'⟩ := exists_of_any (x := Lexer.ofModes fourModes)
    (p := fun l => (performs l (.start "a<1#".toList) () operations).2.1.stack = [3, 0]) (by decide)
  have reordered : Lexer.Reordered threeModes fourModes := by
    refine ⟨rfl, ?_⟩
    intro m member
    simp only [threeModes, fourModes, List.mem_cons, List.not_mem_nil, or_false] at member ⊢
    rcases member with rfl | rfl | rfl
    · exact .inl rfl
    · exact .inr (.inr (.inr rfl))
    · exact .inr (.inl rfl)
  obtain ⟨-, replies, -⟩ :=
    performs_reordered ok ok' reordered "a<1#".toList () operations
  exact ⟨l, l', ok, ok', reordered, operations, replies, of_decide_eq_true stack,
    of_decide_eq_true stack'⟩

end Scanner

end ModalLexer
