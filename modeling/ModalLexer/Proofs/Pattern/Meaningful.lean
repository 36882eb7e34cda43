import ModalLexer.Proofs.Pattern.Joined

/-! # Which written patterns mean something

A written pattern means nothing if it asks for an unknown property, or if without the Unicode flag it
could match something other than whole characters.  So of all flags only this one decides whether it
means something (`Tree.isSome_meaning?`): a fragment that means something by itself does so with the
flags of the joined pattern.  The joined pattern means something if all its branches do
(`isSome_meaning?_joinedTree`). -/
set_option autoImplicit false
namespace ModalLexer

variable {f f' : Flags}

/-! ## Flags that agree on Unicode -/

theorem Flags.unicode_change (same : f'.unicode = f.unicode) (c : FlagChange) :
    (f'.change c).unicode = (f.change c).unicode := by
  unfold change
  induction c generalizing f f' with
  | nil => exact same
  | cons first rest ih =>
      obtain ⟨flag, on⟩ := first
      simp only [List.foldl_cons]
      apply ih
      cases flag <;> simp [set, same]

theorem Flags.isSome_negate? (f : Flags) (chars : CharSet) (negated : Bool) :
    (f.negate? chars negated).isSome = (!negated || f.unicode) := by
  cases negated <;> cases unicode : f.unicode <;> simp [negate?, unicode]

/-- A set that may be complemented, where the set itself depends on the flags. -/
theorem Flags.isSome_bind_negate? (f : Flags) (chars : Option CharSet) (g : CharSet → CharSet)
    (negated : Bool) : (chars.bind fun cs => f.negate? (g cs) negated).isSome =
      (chars.isSome && (!negated || f.unicode)) := by
  cases chars with
  | none => rfl
  | some cs => simp [isSome_negate?]

theorem PropertyQuery.isSome_meaning? (same : f'.unicode = f.unicode) (query : PropertyQuery)
    (negated : Bool) : (query.meaning? f' negated).isSome = (query.meaning? f negated).isSome := by
  rw [meaning?, meaning?, same]
  split
  · rw [Flags.isSome_bind_negate?, Flags.isSome_bind_negate?, same]
  · rfl

theorem Bracket.isSome_meaning? (same : f'.unicode = f.unicode) (b : Bracket) :
    (b.meaning? f').isSome = (b.meaning? f).isSome := by
  induction b with
  | nothing => rfl
  | range lo hi => rw [meaning?, meaning?, Flags.admit?, Flags.admit?, same]
  | shorthand kind negated =>
      rw [meaning?, meaning?, Flags.isSome_negate?, Flags.isSome_negate?, same]
  | property query negated => exact query.isSome_meaning? same negated
  | posix kind negated =>
      rw [meaning?, meaning?, Flags.isSome_negate?, Flags.isSome_negate?, same]
  | nested negated inside ih =>
      rw [meaning?, meaning?, Flags.isSome_bind_negate?, Flags.isSome_bind_negate?, ih, same]
  | join first rest ihFirst ihRest =>
      rw [meaning?, meaning?]
      cases one : first.meaning? f <;> cases one' : first.meaning? f' <;>
        cases two : rest.meaning? f <;> cases two' : rest.meaning? f' <;>
          simp_all
  | op kind left right ihLeft ihRight =>
      rw [meaning?, meaning?]
      cases one : left.meaning? f <;> cases one' : left.meaning? f' <;>
        cases two : right.meaning? f <;> cases two' : right.meaning? f' <;>
          cases kind <;> simp_all

theorem Atom.isSome_meaning? (same : f'.unicode = f.unicode) (a : Atom) :
    (a.meaning? f').isSome = (a.meaning? f).isSome := by
  cases a with
  | literal c asByte =>
      rw [meaning?, meaning?, same]
      split <;> rfl
  | dot =>
      rw [meaning?, meaning?, same]
      split <;> rfl
  | assertion kind => rfl
  | shorthand kind negated =>
      rw [meaning?, meaning?, Option.isSome_map, Option.isSome_map, Flags.isSome_negate?,
        Flags.isSome_negate?, same]
  | property query negated =>
      rw [meaning?, meaning?, Option.isSome_map, Option.isSome_map]
      exact query.isSome_meaning? same negated
  | bracket negated inside =>
      have sets := inside.isSome_meaning? same
      rw [meaning?, meaning?]
      cases one : inside.meaning? f with
      | none =>
          rw [one, Option.isSome_none, Option.isSome_eq_false_iff, Option.isNone_iff_eq_none] at sets
          rw [sets]
          rfl
      | some chars =>
          rw [one, Option.isSome_some] at sets
          obtain ⟨chars', one'⟩ := Option.isSome_iff_exists.1 sets
          simp only [one', Option.bind_some, Option.isSome_map, Flags.isSome_negate?, same]

/-! ## Trees -/

theorem rel_bind {α α' β β' : Type} {r : α → α' → Prop} {q : β → β' → Prop} {x : Option α}
    {y : Option α'} {g : α → Option β} {g' : α' → Option β'} (first : Option.Rel r x y)
    (next : ∀ a b, r a b → Option.Rel q (g a) (g' b)) : Option.Rel q (x.bind g) (y.bind g') := by
  cases first with
  | none => exact .none
  | some related => exact next _ _ related

/-- Scopes in which the same patterns mean something. -/
def Scope.Agrees (scope scope' : Scope) : Prop := scope'.flags.unicode = scope.flags.unicode

/-- In scopes that agree a pattern means something in both or in neither, and the scopes behind it
agree again. -/
theorem Tree.piece?_agrees (tree : Tree) {scope scope' : Scope} (agrees : scope.Agrees scope') :
    Option.Rel (fun found found' => found.2.Agrees found'.2) (tree.piece? scope)
      (tree.piece? scope') := by
  induction tree generalizing scope scope' with
  | nothing => exact .some agrees
  | atom a =>
      have same := a.isSome_meaning? agrees
      rw [piece?, piece?]
      cases one : a.meaning? scope.flags <;> cases one' : a.meaning? scope'.flags
      · exact .none
      · simp [one, one'] at same
      · simp [one, one'] at same
      · exact .some agrees
  | flags change => exact .some (Flags.unicode_change agrees change)
  | group grouping body ih =>
      cases grouping with
      | capture name =>
          have inside : Scope.Agrees ⟨scope.flags, scope.nextGroup + 1⟩
              ⟨scope'.flags, scope'.nextGroup + 1⟩ := agrees
          exact rel_bind (ih inside) fun _ _ _ => .some agrees
      | plain change =>
          have inside : Scope.Agrees ⟨scope.flags.change change, scope.nextGroup⟩
              ⟨scope'.flags.change change, scope'.nextGroup⟩ := Flags.unicode_change agrees change
          exact rel_bind (ih inside) fun _ _ _ => .some agrees
  | repetition least most greedy body ih =>
      exact rel_bind (ih agrees) fun _ _ behind => .some behind
  | sequence first rest ihFirst ihRest =>
      refine rel_bind (ihFirst agrees) fun _ _ between => ?_
      exact rel_bind (ihRest between) fun _ _ behind => .some behind
  | choice first rest ihFirst ihRest =>
      refine rel_bind (ihFirst agrees) fun _ _ between => ?_
      exact rel_bind (ihRest between) fun _ _ behind => .some behind

theorem Tree.isSome_meaning? (same : f'.unicode = f.unicode) (tree : Tree) :
    (tree.meaning? f').isSome = (tree.meaning? f).isSome := by
  have agrees : Scope.Agrees ⟨f, 1⟩ ⟨f', 1⟩ := same
  have related := tree.piece?_agrees agrees
  rw [meaning?, meaning?, Option.isSome_map, Option.isSome_map]
  generalize tree.piece? ⟨f, 1⟩ = found at related ⊢
  generalize tree.piece? ⟨f', 1⟩ = found' at related ⊢
  cases related <;> rfl

/-! ## The joined pattern -/

theorem exists_piece?_joinedTree {flags : Flags} {bs : List Branch}
    (each : ∀ b ∈ bs, (b.own.meaning? flags).isSome = true) (n : Nat) :
    ∃ piece behind, (joinedTree bs).piece? ⟨flags, n⟩ = some (piece, ⟨flags, behind⟩) := by
  induction bs generalizing n with
  | nil => exact ⟨_, _, rfl⟩
  | cons b bs ih =>
      rw [List.forall_mem_cons] at each
      obtain ⟨p, own⟩ := Option.isSome_iff_exists.1 each.1
      have first := b.piece?_tree flags n
      rw [own, Option.map_some] at first
      cases bs with
      | nil => exact ⟨_, _, first⟩
      | cons c bs =>
          obtain ⟨piece, behind, more⟩ := ih each.2 (n + b.span)
          have choice : joinedTree (b :: c :: bs) = .choice b.tree (joinedTree (c :: bs)) := rfl
          rw [choice, Tree.piece?, first]
          simp only [bind, Option.bind_some, more]
          exact ⟨_, _, rfl⟩

/-- Branches that mean something by themselves do so together: a wrapper keeps the flags of its
branch from the next one. -/
theorem isSome_meaning?_joinedTree {flags : Flags} {bs : List Branch}
    (each : ∀ b ∈ bs, (b.own.meaning? flags).isSome = true) :
    ((joinedTree bs).meaning? flags).isSome = true := by
  obtain ⟨piece, behind, meant⟩ := exists_piece?_joinedTree each 1
  rw [Tree.meaning?, meant]
  rfl

end ModalLexer
