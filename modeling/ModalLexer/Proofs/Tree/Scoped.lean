import ModalLexer.Proofs.Tree.Choices

/-! # Patterns whose flags are scoped

Flags that are set by a group hold up to its end, and flags that are set by themselves hold for what
stands behind them as well.  If a pattern sets none by themselves and does not use the verbose flag,
then what is written behind it is read as it is by itself (`Fragment.quiet_of_scopesFlags`) and the flags
there are those in front of the pattern (`Fragment.keepsFlags_of_scopesFlags`). -/
set_option autoImplicit false
namespace ModalLexer

open Reading

/-- Whether a lexeme leaves the flags of the group it stands in as they are, and verbose mode off. -/
def Lexeme.scopesFlags : Lexeme → Bool
  | .flags _ => false
  | .opening (.plain change) => !change.contains (.verbose, true)
  | _ => true

theorem Lexeme.turnsVerbose_of_scopesFlags {l : Lexeme} (scopes : l.scopesFlags = true) :
    l.turnsVerbose = false := by
  cases l with
  | flags change => cases scopes
  | opening grouping =>
      cases grouping with
      | capture name => rfl
      | plain change => simpa [scopesFlags, turnsVerbose] using scopes
  | _ => rfl

/-- The flags behind a written pattern are those in front of it. -/
def Tree.KeepsFlags (t : Tree) : Prop := ∀ flags, t.flagsBehind flags = flags

namespace Tree.KeepsFlags

variable {t u : Tree} {parts : List Tree}

theorem sequence (first : t.KeepsFlags) (rest : u.KeepsFlags) : (Tree.sequence t u).KeepsFlags :=
  fun flags => (congrArg u.flagsBehind (first flags)).trans (rest flags)

theorem choice (first : t.KeepsFlags) (rest : u.KeepsFlags) : (Tree.choice t u).KeepsFlags :=
  fun flags => (congrArg u.flagsBehind (first flags)).trans (rest flags)

theorem foldl {join : Tree → Tree → Tree}
    (joins : ∀ {a b : Tree}, a.KeepsFlags → b.KeepsFlags → (join a b).KeepsFlags)
    (last : t.KeepsFlags) (before : ∀ part ∈ parts, part.KeepsFlags) :
    (parts.foldl (fun joined part => join part joined) t).KeepsFlags := by
  induction parts generalizing t with
  | nil => exact last
  | cons part parts ih =>
      rw [List.forall_mem_cons] at before
      exact ih (joins before.1 last) before.2

theorem sequenceOf (each : ∀ part ∈ parts, part.KeepsFlags) :
    (ModalLexer.sequenceOf parts).KeepsFlags := by
  cases parts with
  | nil => exact fun _ => rfl
  | cons last before =>
      rw [List.forall_mem_cons] at each
      exact foldl sequence each.1 each.2

end Tree.KeepsFlags

/-- No part and no branch of a frame changes the flags. -/
structure Frame.KeepsFlags (f : Frame) : Prop where
  branches : ∀ branch ∈ f.branches, branch.KeepsFlags
  parts : ∀ part ∈ f.parts, part.KeepsFlags

theorem Frame.KeepsFlags.close {f : Frame} (keeps : f.KeepsFlags) : f.close.KeepsFlags :=
  .foldl .choice (.sequenceOf keeps.parts) keeps.branches

theorem Frame.KeepsFlags.push {f : Frame} (keeps : f.KeepsFlags) {part : Tree}
    (steady : part.KeepsFlags) : (f.push part).KeepsFlags :=
  ⟨keeps.branches, List.forall_mem_cons.2 ⟨steady, keeps.parts⟩⟩

theorem Frame.keepsFlags_invariant :
    Frame.Invariant (fun l => l.scopesFlags = true) Frame.KeepsFlags where
  fresh := ⟨fun _ member => absurd member List.not_mem_nil,
    fun _ member => absurd member List.not_mem_nil⟩
  atom := fun _ keeps => keeps.push fun _ => rfl
  flags := fun _ scopes => absurd scopes Bool.false_ne_true
  group := fun _ _ keeps => keeps.push fun _ => rfl
  endBranch := fun keeps => ⟨List.forall_mem_cons.2 ⟨.sequenceOf keeps.parts, keeps.branches⟩,
    fun _ member => absurd member List.not_mem_nil⟩
  repetition := fun _ _ _ keeps => by
    obtain ⟨last, before⟩ := List.forall_mem_cons.1 keeps.parts
    exact ⟨keeps.branches, List.forall_mem_cons.2 ⟨last, before⟩⟩

namespace Fragment

variable {f : Fragment} (scopes : ∀ l ∈ f.lexemes, l.scopesFlags = true)

include scopes

theorem keepsFlags_of_scopesFlags : f.tree.KeepsFlags := by
  obtain ⟨frame, ran, closed⟩ := Tree.ofLexemes?_eq_some_iff.1 f.built
  rw [← closed]
  exact (Frame.keepsFlags_invariant.of_run? scopes ran).close

theorem quiet_of_scopesFlags : f.Quiet := by
  have plain : ∀ l ∈ f.lexemes, l.turnsVerbose = false := fun l member =>
    Lexeme.turnsVerbose_of_scopesFlags (scopes l member)
  obtain ⟨here, left, reads, -⟩ := f.reads_alone
  have off := (reads.isOff ⟨rfl, fun _ member => absurd member List.not_mem_nil⟩ plain).1
  refine ⟨f.not_endsInComment plain, ?_⟩
  rw [reads.behind?_eq, ← off]
  rfl

end Fragment

end ModalLexer
