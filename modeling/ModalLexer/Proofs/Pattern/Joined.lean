import ModalLexer.Proofs.Pattern.MatchRenumbered
import ModalLexer.Proofs.Tree.Join

/-! # Matching the joined pattern

The joined pattern means the choice of its branches, each in a group with the number of its
opening parenthesis (`joined_meaning`).  So it matches as the first branch that matches by itself,
and reports the groups of that branch, counted from its wrapper (`first?_joined`). -/
set_option autoImplicit false
namespace ModalLexer

namespace Branch

def span (b : Branch) : Nat := ModalLexer.captures b.fragment.lexemes + 1

/-- What a branch means by itself; if it means nothing, it matches nowhere. -/
def pattern (flags : Flags) (b : Branch) : Pattern := (b.own.meaning? flags).getD .never

theorem captures_own (b : Branch) : b.own.captures + 1 = b.span := by
  obtain ⟨wordBound, fragment⟩ := b
  have counted := Tree.captures_ofLexemes? fragment.built
  cases wordBound <;> simp [own, span, Tree.captures, counted]

/-- A branch in its wrapper means what it means by itself, with its groups numbered from there. -/
theorem piece?_tree (flags : Flags) (n : Nat) (b : Branch) : b.tree.piece? ⟨flags, n⟩ =
    (b.own.meaning? flags).map fun p =>
      (.whole (.group n none (p.shift n)), ⟨flags, n + b.span⟩) := by
  have start : Scope.mk flags (n + 1) = (Scope.mk flags 1).shift n := by
    simp [Scope.shift, Nat.add_comm]
  simp only [tree, Tree.piece?, start, Tree.piece?_shift, Tree.meaning?]
  cases meant : b.own.piece? ⟨flags, 1⟩ with
  | none => rfl
  | some found =>
      obtain ⟨piece, behind⟩ := found
      have counted := (Tree.groups_piece? meant).2
      have next : behind.nextGroup + n = n + b.span := by
        rw [counted, ← b.captures_own, Nat.add_comm, Nat.add_comm 1]
      simp [Piece.pattern_shift, Scope.shift, next]

end Branch

/-- Branches in their wrappers, the first of which has the number `n`. -/
def wrapped (flags : Flags) (n : Nat) : List Branch → List Pattern
  | [] => []
  | b :: rest => .group n none ((b.pattern flags).shift n) :: wrapped flags (n + b.span) rest

theorem wrapped_append (flags : Flags) (n : Nat) (before after : List Branch) :
    wrapped flags n (before ++ after) =
      wrapped flags n before ++ wrapped flags (n + (before.map Branch.span).sum) after := by
  induction before generalizing n with
  | nil => rfl
  | cons b before ih =>
      rw [List.cons_append, wrapped, ih, wrapped, List.cons_append, List.map_cons, List.sum_cons,
        Nat.add_assoc]

theorem asBranches_joinedTree {flags : Flags} {bs : List Branch} {n : Nat} {piece : Piece}
    {behind : Scope} (nonempty : bs ≠ [])
    (meant : (joinedTree bs).piece? ⟨flags, n⟩ = some (piece, behind)) :
    (∀ b ∈ bs, b.own.meaning? flags = some (b.pattern flags)) ∧
      piece.asBranches = wrapped flags n bs := by
  have self {b : Branch} {p : Pattern} (own : b.own.meaning? flags = some p) :
      p = b.pattern flags := by rw [Branch.pattern, own]; rfl
  induction bs generalizing n piece behind with
  | nil => exact absurd rfl nonempty
  | cons b bs ih =>
      cases bs with
      | nil =>
          rw [joinedTree, Branch.piece?_tree] at meant
          obtain ⟨p, own, same⟩ := Option.map_eq_some_iff.1 meant
          obtain ⟨rfl, rfl⟩ := Prod.mk.inj same
          obtain rfl := self own
          exact ⟨fun c member => List.mem_singleton.1 member ▸ own, rfl⟩
      | cons c bs =>
          have choice : joinedTree (b :: c :: bs) = .choice b.tree (joinedTree (c :: bs)) := rfl
          rw [choice, Tree.piece?, Branch.piece?_tree] at meant
          obtain ⟨⟨first, between⟩, firstMeant, meant⟩ := Option.bind_eq_some_iff.1 meant
          obtain ⟨⟨more, after⟩, restMeant, same⟩ := Option.bind_eq_some_iff.1 meant
          obtain ⟨rfl, rfl⟩ := Prod.mk.inj (Option.some.inj same)
          obtain ⟨p, own, same⟩ := Option.map_eq_some_iff.1 firstMeant
          obtain ⟨rfl, rfl⟩ := Prod.mk.inj same
          obtain rfl := self own
          obtain ⟨each, branches⟩ := ih (List.cons_ne_nil c bs) restMeant
          refine ⟨?_, ?_⟩
          · intro d member
            rcases List.mem_cons.1 member with rfl | later
            · exact own
            · exact each d later
          · exact congrArg (_ :: ·) branches

namespace Pattern

theorem choose_groups {ps : List Pattern} (nonempty : ps ≠ [])
    (grouped : ∀ p ∈ ps, ∃ index name body, p = .group index name body) :
    choose ps = foldChoice ps := by
  have branches_eq : ps.flatMap branches = ps := by
    have alone : ∀ p ∈ ps, branches p = [p] := by
      intro p member
      obtain ⟨index, name, body, rfl⟩ := grouped p member
      rfl
    rw [List.flatMap_congr alone, List.flatMap_singleton']
  obtain ⟨p, rest, rfl⟩ := List.exists_cons_of_ne_nil nonempty
  obtain ⟨index, name, body, rfl⟩ := grouped p List.mem_cons_self
  have apart : sharedStart? (.group index name body :: rest) = none := by
    simp [sharedStart?, List.mapM_cons, sequenceParts?]
  simp only [choose, branches_eq, apart]
  cases rest with
  | nil => rfl
  | cons q rest => simp [chooseApart, List.mapM_cons, onlyChar?, set?]

theorem firstFrom?_foldChoice {ps : List Pattern} (nonempty : ps ≠ []) (path : Path) :
    (foldChoice ps).firstFrom? path = ps.findSome? (·.firstFrom? path) := by
  induction ps with
  | nil => exact absurd rfl nonempty
  | cons p ps ih =>
      cases ps with
      | nil => cases found : p.firstFrom? path <;> simp [foldChoice, found]
      | cons q ps =>
          have later := ih (List.cons_ne_nil q ps)
          rw [List.findSome?_cons, ← later, foldChoice, firstFrom?]
          · cases p.firstFrom? path <;> rfl
          · exact List.cons_ne_nil q ps

end Pattern

theorem wrapped_grouped (flags : Flags) (n : Nat) (bs : List Branch) :
    ∀ p ∈ wrapped flags n bs, ∃ index name body, p = .group index name body := by
  induction bs generalizing n with
  | nil => exact nofun
  | cons b bs ih =>
      intro p member
      rcases List.mem_cons.1 member with rfl | later
      · exact ⟨_, _, _, rfl⟩
      · exact ih _ p later

theorem wrapped_ne_nil {bs : List Branch} (flags : Flags) (n : Nat) (nonempty : bs ≠ []) :
    wrapped flags n bs ≠ [] := by
  obtain ⟨b, rest, rfl⟩ := List.exists_cons_of_ne_nil nonempty
  exact List.cons_ne_nil _ _

/-- The joined pattern means the choice of its branches in their wrappers. -/
theorem joined_meaning {flags : Flags} {bs : List Branch} {pattern : Pattern} (nonempty : bs ≠ [])
    (meant : (joinedTree bs).meaning? flags = some pattern) :
    (∀ b ∈ bs, b.own.meaning? flags = some (b.pattern flags)) ∧
      pattern = .foldChoice (wrapped flags 1 bs) := by
  obtain ⟨⟨piece, behind⟩, found, rfl⟩ := Option.map_eq_some_iff.1 meant
  obtain ⟨each, branches⟩ := asBranches_joinedTree nonempty found
  refine ⟨each, ?_⟩
  have grouped := wrapped_grouped flags 1 bs
  rw [← Pattern.choose_groups (wrapped_ne_nil flags 1 nonempty) grouped, ← branches]
  cases piece with
  | branches ps => rfl
  | whole p =>
      obtain ⟨index, name, body, same⟩ := grouped p (branches ▸ List.mem_cons_self)
      rw [same]
      rfl
  | parts ps =>
      obtain ⟨index, name, body, same⟩ := grouped (.sequenceAll ps) (branches ▸ List.mem_cons_self)
      change Pattern.sequenceAll ps = .choose [Pattern.sequenceAll ps]
      rw [same]
      rfl

theorem first?_wrapper (n : Nat) (p : Pattern) (s : Spot) :
    Pattern.firstFrom? (.group n none (p.shift n)) (.start s) =
      (p.first? s).map fun path => (path.shift n).close n s := by
  have inner := Pattern.first?_shift n p s
  simp only [Pattern.first?] at inner
  rw [Pattern.firstFrom?, inner, Option.map_map]
  rfl

theorem findSome?_wrapped_eq_none {flags : Flags} {bs : List Branch} {s : Spot} (n : Nat)
    (unmatched : ∀ b ∈ bs, (b.pattern flags).first? s = none) :
    (wrapped flags n bs).findSome? (·.firstFrom? (.start s)) = none := by
  induction bs generalizing n with
  | nil => rfl
  | cons b bs ih =>
      rw [wrapped, List.findSome?_cons, first?_wrapper, unmatched b List.mem_cons_self]
      exact ih _ fun c member => unmatched c (List.mem_cons_of_mem b member)

/-- The first branch that matches by itself is the one that the joined pattern matches as. -/
theorem first?_joined {flags : Flags} {before after : List Branch} {b : Branch} {s : Spot}
    {path : Path} (unmatched : ∀ c ∈ before, (c.pattern flags).first? s = none)
    (found : (b.pattern flags).first? s = some path) :
    (Pattern.foldChoice (wrapped flags 1 (before ++ b :: after))).first? s =
      some ((path.shift (1 + (before.map Branch.span).sum)).close
        (1 + (before.map Branch.span).sum) s) := by
  have nonempty : before ++ b :: after ≠ [] :=
    List.append_ne_nil_of_right_ne_nil _ (List.cons_ne_nil _ _)
  rw [Pattern.first?, Pattern.firstFrom?_foldChoice (wrapped_ne_nil flags 1 nonempty),
    wrapped_append, List.findSome?_append, findSome?_wrapped_eq_none 1 unmatched, wrapped,
    List.findSome?_cons, first?_wrapper, found]
  rfl

theorem first?_joined_eq_none {flags : Flags} {bs : List Branch} {s : Spot} (nonempty : bs ≠ [])
    (unmatched : ∀ b ∈ bs, (b.pattern flags).first? s = none) :
    (Pattern.foldChoice (wrapped flags 1 bs)).first? s = none := by
  rw [Pattern.first?, Pattern.firstFrom?_foldChoice (wrapped_ne_nil flags 1 nonempty)]
  exact findSome?_wrapped_eq_none 1 unmatched

end ModalLexer
