import ModalLexer.Proofs.Pattern.Groups

/-! # Sets that run upwards

Joining sets means the union of them only if their intervals run upwards (`CharSet.contains_unions`).
All intervals do that are put together here: those of the tables, what the operations on sets make of
them, and so those in the meaning of a written pattern (`Tree.ordered_piece?`). -/
set_option autoImplicit false
namespace ModalLexer

namespace CharSet

variable {s t : CharSet}

theorem ordered_empty : empty.Ordered := nofun

theorem ordered_full : full.Ordered := by
  intro i member
  obtain rfl := List.mem_singleton.1 member
  exact Nat.zero_le _

theorem ordered_range (lo hi : Char) : (range lo hi).Ordered := by
  unfold range
  split
  · next up =>
      intro i member
      obtain rfl := List.mem_singleton.1 member
      exact up
  · exact nofun

theorem ordered_ofChars (chars : List Char) : (ofChars chars).Ordered := by
  refine (any_foldr_insertInterval 0 _ [] ?_ nofun).2
  intro i member
  obtain ⟨c, -, rfl⟩ := List.mem_map.1 member
  exact Nat.le_refl _

theorem Ordered.union (upS : s.Ordered) (upT : t.Ordered) : (s.union t).Ordered :=
  (any_foldr_insertInterval 0 s.intervals t.intervals upS upT).2

theorem ordered_unions {sets : List CharSet} (each : ∀ s ∈ sets, s.Ordered) :
    (unions sets).Ordered := by
  induction sets with
  | nil => exact ordered_empty
  | cons s sets ih =>
      rw [List.forall_mem_cons] at each
      exact each.1.union (ih each.2)

theorem contains_unions {sets : List CharSet} (each : ∀ s ∈ sets, s.Ordered) (c : Char) :
    (unions sets).contains c = sets.any (·.contains c) := by
  induction sets with
  | nil => rfl
  | cons s sets ih =>
      rw [List.forall_mem_cons] at each
      rw [List.any_cons, ← ih each.2]
      exact contains_union s (unions sets) each.1 (ordered_unions each.2) c

theorem le_of_mem_gapsFrom (lo : Nat) (is : List Interval) : ∀ i ∈ gapsFrom lo is, i.lo ≤ i.hi := by
  fun_induction gapsFrom lo is with
  | case1 lo more =>
      intro i member
      obtain rfl := List.mem_singleton.1 member
      exact more
  | case2 => exact nofun
  | case3 lo i rest gap ih =>
      intro j member
      rcases List.mem_cons.1 member with rfl | later
      · exact Nat.le_sub_one_of_lt gap
      · exact ih j later
  | case4 lo i rest gap ih => exact ih

theorem ordered_complement (s : CharSet) : s.complement.Ordered := le_of_mem_gapsFrom 0 s.intervals

theorem ordered_inter (s t : CharSet) : (s.inter t).Ordered := by
  intro i member
  obtain ⟨j, -, member⟩ := List.mem_flatMap.1 member
  obtain ⟨k, -, met⟩ := List.mem_filterMap.1 member
  simp only [Interval.meet?, Option.ite_none_right_eq_some] at met
  obtain ⟨up, same⟩ := met
  obtain rfl := Option.some.inj same
  exact up

theorem ordered_symmDiff (s t : CharSet) : (s.symmDiff t).Ordered :=
  (ordered_inter _ _).union (ordered_inter _ _)

theorem Ordered.foldCase (up : s.Ordered) : s.foldCase.Ordered := up.union (ordered_ofChars _)

theorem Ordered.foldAsciiCase (up : s.Ordered) : s.foldAsciiCase.Ordered :=
  up.union (ordered_ofChars _)

theorem ordered_close {r : SpanReader} (up : ∀ i ∈ r.done, i.lo ≤ i.hi) :
    ∀ i ∈ r.close.done, i.lo ≤ i.hi := by
  unfold SpanReader.close
  split
  · exact up
  · dsimp only
    split
    · next upwards => exact lo_le_hi_of_mem_insertInterval _ _ upwards up
    · exact up

theorem ordered_ofText (text : String) : (ofText text).Ordered := by
  have read (cs : List Char) :
      ∀ i ∈ (cs.foldr SpanReader.read SpanReader.start).done, i.lo ≤ i.hi := by
    induction cs with
    | nil => exact nofun
    | cons c cs ih =>
        rw [List.foldr_cons, SpanReader.read]
        split
        · exact ih
        · split
          · exact ih
          · exact ordered_close ih
  exact ordered_close (read text.toList)

end CharSet

open CharSet

/-! ## Named sets -/

namespace Unicode

variable {name : String} {chars : CharSet}

theorem ordered_find? {table : List Named} (found : find? table name = some chars) :
    chars.Ordered := by
  obtain ⟨entry, -, rfl⟩ := Option.map_eq_some_iff.1 found
  exact ordered_ofText entry.text

theorem ordered_category? (found : category? name = some chars) : chars.Ordered := by
  unfold category? at found
  split at found
  · obtain rfl := Option.some.inj found
    exact ordered_full
  · obtain rfl := Option.some.inj found
    exact ordered_range _ _
  · obtain ⟨unassigned, -, rfl⟩ := Option.map_eq_some_iff.1 found
    exact ordered_complement unassigned
  · split at found
    · obtain rfl := Option.some.inj found
      refine ordered_unions fun s member => ?_
      obtain ⟨part, -, listed⟩ := List.mem_filterMap.1 member
      exact ordered_find? listed
    · exact ordered_find? found

theorem ordered_scriptExtension? (found : scriptExtension? name = some chars) :
    chars.Ordered := by
  rcases Option.or_eq_some_iff.1 found with extended | ⟨-, plain⟩
  · exact ordered_find? extended
  · exact ordered_find? plain

theorem ordered_age? (found : age? name = some chars) : chars.Ordered := by
  obtain ⟨last, -, rfl⟩ := Option.map_eq_some_iff.1 found
  refine ordered_unions fun s member => ?_
  obtain ⟨entry, -, rfl⟩ := List.mem_map.1 member
  exact ordered_ofText entry.text

theorem ordered_named {found : Option CharSet} (up : ∀ chars, found = some chars → chars.Ordered) :
    (named found).Ordered := by
  cases found with
  | none => exact ordered_empty
  | some chars => exact up chars rfl

theorem ordered_word : word.Ordered := by
  refine ordered_unions fun s member => ?_
  simp only [List.mem_cons, List.not_mem_nil, or_false] at member
  rcases member with rfl | rfl | rfl | rfl | rfl
  · exact ordered_named fun _ => ordered_find?
  · exact ordered_named fun _ => ordered_category?
  · exact ordered_named fun _ => ordered_category?
  · exact ordered_named fun _ => ordered_category?
  · exact ordered_named fun _ => ordered_find?

end Unicode

theorem PropertyQuery.ordered_set? {query : PropertyQuery} {chars : CharSet}
    (found : query.set? = some chars) : chars.Ordered := by
  cases query with
  | named name =>
      simp only [set?] at found
      split at found
      · exact Unicode.ordered_category? found
      · rcases Option.or_eq_some_iff.1 found with early | ⟨-, script⟩
        · rcases Option.or_eq_some_iff.1 early with property | ⟨-, category⟩
          · exact Unicode.ordered_find? property
          · exact Unicode.ordered_category? category
        · exact Unicode.ordered_find? script
  | valued property value =>
      simp only [set?] at found
      split_ifs at found
      · exact Unicode.ordered_category? found
      · exact Unicode.ordered_find? found
      · exact Unicode.ordered_scriptExtension? found
      · exact Unicode.ordered_age? found
      · exact Unicode.ordered_find? found
      · exact Unicode.ordered_find? found
      · exact Unicode.ordered_find? found

theorem Posix.ordered_set (kind : Posix) : kind.set.Ordered := by
  cases kind <;> exact ordered_ofText _

theorem Shorthand.ordered_set (unicode : Bool) (kind : Shorthand) : (kind.set unicode).Ordered := by
  cases kind with
  | digit =>
      rw [set]
      split
      · exact Unicode.ordered_named fun _ => Unicode.ordered_category?
      · exact ordered_range _ _
  | space =>
      rw [set]
      split
      · exact Unicode.ordered_named fun _ => Unicode.ordered_find?
      · exact ordered_ofText _
  | word =>
      rw [set]
      split
      · exact Unicode.ordered_word
      · exact ordered_ofText _

/-! ## Sets under flags -/

section Flags

variable {f : Flags} {s chars : CharSet}

theorem Flags.ordered_fold (up : s.Ordered) : (f.fold s).Ordered := by
  unfold fold
  split
  · split
    · exact up.foldCase
    · exact up.foldAsciiCase
  · exact up

theorem Flags.ordered_negate? {negated : Bool} (up : s.Ordered)
    (found : f.negate? s negated = some chars) : chars.Ordered := by
  unfold negate? at found
  split at found
  · rw [Option.ite_none_right_eq_some, Option.some.injEq] at found
    obtain ⟨-, rfl⟩ := found
    exact ordered_complement s
  · obtain rfl := Option.some.inj found
    exact up

theorem PropertyQuery.ordered_meaning? {query : PropertyQuery} {negated : Bool}
    (found : query.meaning? f negated = some chars) : chars.Ordered := by
  rw [meaning?, Option.ite_none_right_eq_some] at found
  obtain ⟨known, named, found⟩ := Option.bind_eq_some_iff.1 found.2
  exact Flags.ordered_negate? (Flags.ordered_fold (ordered_set? named)) found

theorem Flags.ordered_admit? (up : s.Ordered) (found : f.admit? s = some chars) :
    chars.Ordered := by
  rw [admit?, Option.ite_none_right_eq_some, Option.some.injEq] at found
  obtain ⟨-, rfl⟩ := found
  exact up

theorem Bracket.ordered_meaning? {inside : Bracket} (found : inside.meaning? f = some chars) :
    chars.Ordered := by
  induction inside generalizing chars with
  | nothing =>
      obtain rfl := Option.some.inj found
      exact ordered_empty
  | range lo hi => exact Flags.ordered_admit? (ordered_range lo hi) found
  | shorthand kind negated => exact Flags.ordered_negate? (kind.ordered_set f.unicode) found
  | property query negated => exact PropertyQuery.ordered_meaning? found
  | posix kind negated => exact Flags.ordered_negate? (Flags.ordered_fold kind.ordered_set) found
  | nested negated inside ih =>
      obtain ⟨s, meant, found⟩ := Option.bind_eq_some_iff.1 found
      exact Flags.ordered_negate? (Flags.ordered_fold (ih meant)) found
  | join first rest firstIh restIh =>
      obtain ⟨s, firstMeant, found⟩ := Option.bind_eq_some_iff.1 found
      obtain ⟨t, restMeant, same⟩ := Option.bind_eq_some_iff.1 found
      obtain rfl := Option.some.inj same
      exact (firstIh firstMeant).union (restIh restMeant)
  | op kind left right leftIh rightIh =>
      obtain ⟨s, leftMeant, found⟩ := Option.bind_eq_some_iff.1 found
      obtain ⟨t, rightMeant, same⟩ := Option.bind_eq_some_iff.1 found
      cases kind with
      | inter =>
          obtain rfl := Option.some.inj same
          exact ordered_inter _ _
      | diff =>
          obtain rfl := Option.some.inj same
          exact ordered_inter _ _
      | symmDiff =>
          obtain rfl := Option.some.inj same
          exact ordered_symmDiff _ _

end Flags

/-! ## Patterns -/

namespace Pattern

/-- All sets in a pattern run upwards. -/
def Ordered : Pattern → Prop
  | .nothing => True
  | .literal _ => True
  | .set chars _ => chars.Ordered
  | .look _ => True
  | .group _ _ body => body.Ordered
  | .repetition _ _ _ body => body.Ordered
  | .sequence first rest => first.Ordered ∧ rest.Ordered
  | .choice first rest => first.Ordered ∧ rest.Ordered

theorem ordered_parts (p : Pattern) : (∀ part ∈ p.parts, part.Ordered) ↔ p.Ordered := by
  induction p with
  | nothing => simp [parts, Ordered]
  | sequence first rest _ ih => rw [parts, List.forall_mem_cons, ih, Ordered]
  | _ => simp [parts]

theorem ordered_branches (p : Pattern) : (∀ branch ∈ p.branches, branch.Ordered) ↔ p.Ordered := by
  induction p with
  | choice first rest _ ih => rw [branches, List.forall_mem_cons, ih, Ordered]
  | _ => simp [branches]

theorem ordered_flatMap_branches {ps : List Pattern} (each : ∀ p ∈ ps, p.Ordered) :
    ∀ p ∈ ps.flatMap branches, p.Ordered := by
  rw [List.forall_mem_flatMap]
  exact fun p member => (ordered_branches p).2 (each p member)

theorem ordered_foldSequence {ps : List Pattern} (each : ∀ p ∈ ps, p.Ordered) :
    (foldSequence ps).Ordered := by
  fun_induction foldSequence ps with
  | case1 => trivial
  | case2 p => exact each p List.mem_cons_self
  | case3 p rest _ ih =>
      rw [List.forall_mem_cons] at each
      exact ⟨each.1, ih each.2⟩

theorem ordered_consPart {part : Pattern} {ps : List Pattern} (first : part.Ordered)
    (each : ∀ p ∈ ps, p.Ordered) : ∀ p ∈ consPart part ps, p.Ordered := by
  unfold consPart
  split
  · rw [List.forall_mem_cons] at each ⊢
    exact ⟨trivial, each.2⟩
  · exact List.forall_mem_cons.2 ⟨first, each⟩

theorem ordered_sequenceAll {ps : List Pattern} (each : ∀ p ∈ ps, p.Ordered) :
    (sequenceAll ps).Ordered := by
  have flat : ∀ p ∈ ps.flatMap parts, p.Ordered := by
    rw [List.forall_mem_flatMap]
    exact fun p member => (ordered_parts p).2 (each p member)
  apply ordered_foldSequence
  generalize ps.flatMap parts = qs at flat
  induction qs with
  | nil => exact nofun
  | cons q qs ih =>
      rw [List.forall_mem_cons] at flat
      exact ordered_consPart flat.1 (ih flat.2)

theorem ordered_ofSet {chars : CharSet} {ofBytes : Bool} (up : chars.Ordered) :
    (ofSet chars ofBytes).Ordered := by
  unfold ofSet
  split
  · trivial
  · exact up

theorem ordered_foldChoice {ps : List Pattern} (each : ∀ p ∈ ps, p.Ordered) :
    (foldChoice ps).Ordered := by
  fun_induction foldChoice ps with
  | case1 => exact ordered_empty
  | case2 p => exact each p List.mem_cons_self
  | case3 p rest _ ih =>
      rw [List.forall_mem_cons] at each
      exact ⟨each.1, ih each.2⟩

theorem ordered_of_set? {p : Pattern} {chars : CharSet} (only : p.set? = some chars)
    (up : p.Ordered) : chars.Ordered := by
  unfold set? at only
  split at only
  · obtain rfl := Option.some.inj only
    exact up
  · cases only

theorem ordered_of_mapM_set? {ps : List Pattern} {sets : List CharSet}
    (all : ps.mapM set? = some sets) (each : ∀ p ∈ ps, p.Ordered) : ∀ s ∈ sets, s.Ordered := by
  have found := forall₂_of_mapM all
  clear all
  induction found with
  | nil => exact nofun
  | cons first _ ih =>
      rw [List.forall_mem_cons] at each ⊢
      exact ⟨ordered_of_set? first each.1, ih each.2⟩

theorem ordered_chooseApart {ps : List Pattern} (each : ∀ p ∈ ps, p.Ordered) :
    (chooseApart ps).Ordered := by
  unfold chooseApart
  split
  · exact each _ List.mem_cons_self
  · split
    · exact ordered_ofSet (ordered_ofChars _)
    · split
      · next all => exact ordered_ofSet (ordered_unions (ordered_of_mapM_set? all each))
      · exact ordered_foldChoice each

theorem ordered_of_sequenceParts? {p : Pattern} {ps : List Pattern}
    (parts : p.sequenceParts? = some ps) (up : p.Ordered) : ∀ part ∈ ps, part.Ordered := by
  unfold sequenceParts? at parts
  split at parts
  · next first rest =>
      obtain rfl := Option.some.inj parts
      exact List.forall_mem_cons.2 ⟨up.1, (ordered_parts rest).2 up.2⟩
  · cases parts

theorem ordered_ends {all start ends : List Pattern} (each : ∀ p ∈ all, p.Ordered)
    (shared : sharedStart? all = some (start, ends)) :
    (∀ p ∈ start, p.Ordered) ∧ ∀ p ∈ ends, p.Ordered := by
  obtain ⟨sequences, n, sequenced, two, alike, rfl⟩ := exists_of_sharedStart? shared
  have up : ∀ parts ∈ sequences, ∀ p ∈ parts, p.Ordered := by
    clear two alike shared
    induction sequenced with
    | nil => exact nofun
    | cons first _ ih =>
        rw [List.forall_mem_cons] at each ⊢
        exact ⟨ordered_of_sequenceParts? first each.1, ih each.2⟩
  constructor
  · obtain ⟨parts, member⟩ := List.exists_mem_of_length_pos (Nat.lt_of_succ_lt two)
    rw [← alike parts member]
    exact fun p inStart => up parts member p (List.mem_of_mem_take inStart)
  · rw [List.forall_mem_map]
    exact fun parts member => ordered_sequenceAll fun p inEnd =>
      up parts member p (List.mem_of_mem_drop inEnd)

theorem ordered_choose {ps : List Pattern} (each : ∀ p ∈ ps, p.Ordered) : (choose ps).Ordered := by
  have all := ordered_flatMap_branches each
  unfold choose
  simp only
  split
  · next start ends shared =>
      obtain ⟨upStart, upEnds⟩ := ordered_ends all shared
      refine ordered_sequenceAll (List.forall_mem_append.2 ⟨upStart, ?_⟩)
      exact List.forall_mem_singleton.2 (ordered_chooseApart (ordered_flatMap_branches upEnds))
  · exact ordered_chooseApart all

theorem ordered_repeated {least : Nat} {most : Option Nat} {greedy : Bool} {body : Pattern}
    (up : body.Ordered) : (repeated least most greedy body).Ordered := by
  have around (once : Prop) [Decidable once] (low : Nat) (high : Option Nat) :
      (if once then body else .repetition low high greedy body).Ordered := by
    split
    · exact up
    · exact up
  simp only [repeated]
  generalize (if body.onlyEmpty then some (min (most.getD 1) 1) else most) = high
  split
  · trivial
  · exact around _ _ _

end Pattern

/-! ## Written patterns -/

theorem Flags.ordered_literal (f : Flags) (c : Char) : (f.literal c).Ordered := by
  unfold literal
  split
  · apply Pattern.ordered_ofSet
    split
    · exact ordered_ofChars _
    · exact (ordered_range c c).foldAsciiCase
  · trivial

theorem Atom.ordered_meaning? {f : Flags} {a : Atom} {p : Pattern}
    (meant : a.meaning? f = some p) : p.Ordered := by
  cases a with
  | literal c asByte =>
      rw [meaning?, Option.ite_none_left_eq_some, Option.some.injEq] at meant
      obtain ⟨-, rfl⟩ := meant
      exact f.ordered_literal c
  | dot =>
      rw [meaning?, Option.ite_none_right_eq_some, Option.some.injEq] at meant
      obtain ⟨-, rfl⟩ := meant
      exact Pattern.ordered_ofSet (ordered_complement _)
  | assertion kind =>
      obtain rfl := Option.some.inj meant
      trivial
  | shorthand kind negated =>
      obtain ⟨chars, found, rfl⟩ := Option.map_eq_some_iff.1 meant
      exact Pattern.ordered_ofSet (Flags.ordered_negate? (kind.ordered_set f.unicode) found)
  | property query negated =>
      obtain ⟨chars, found, rfl⟩ := Option.map_eq_some_iff.1 meant
      exact Pattern.ordered_ofSet (PropertyQuery.ordered_meaning? found)
  | bracket negated inside =>
      obtain ⟨listed, inner, meant⟩ := Option.bind_eq_some_iff.1 meant
      obtain ⟨chars, found, rfl⟩ := Option.map_eq_some_iff.1 meant
      have up := Flags.ordered_fold (f := f) (Bracket.ordered_meaning? inner)
      exact Pattern.ordered_ofSet (Flags.ordered_negate? up found)

/-- All sets in a piece run upwards. -/
def Piece.Ordered : Piece → Prop
  | .whole p => p.Ordered
  | .parts ps => ∀ p ∈ ps, p.Ordered
  | .branches ps => ∀ p ∈ ps, p.Ordered

namespace Piece.Ordered

variable {piece : Piece} (up : piece.Ordered)

include up

theorem pattern : piece.pattern.Ordered := by
  cases piece with
  | whole p => exact up
  | parts ps => exact Pattern.ordered_sequenceAll up
  | branches ps => exact Pattern.ordered_choose up

theorem asParts : ∀ p ∈ piece.asParts, p.Ordered := by
  unfold Piece.asParts
  split
  · exact up
  · exact List.forall_mem_singleton.2 up.pattern

theorem asBranches : ∀ p ∈ piece.asBranches, p.Ordered := by
  unfold Piece.asBranches
  split
  · exact up
  · exact List.forall_mem_singleton.2 up.pattern

end Piece.Ordered

/-- All sets in what a written pattern means run upwards. -/
theorem Tree.ordered_piece? {tree : Tree} {scope behind : Scope} {piece : Piece}
    (meant : tree.piece? scope = some (piece, behind)) : piece.Ordered := by
  induction tree generalizing scope behind piece with
  | nothing =>
      obtain ⟨rfl, rfl⟩ := Prod.mk.inj (Option.some.inj meant)
      trivial
  | atom a =>
      obtain ⟨p, meaning, same⟩ := Option.map_eq_some_iff.1 meant
      obtain ⟨rfl, rfl⟩ := Prod.mk.inj same
      exact Atom.ordered_meaning? meaning
  | flags change =>
      obtain ⟨rfl, rfl⟩ := Prod.mk.inj (Option.some.inj meant)
      trivial
  | group grouping body ih =>
      cases grouping with
      | capture name =>
          obtain ⟨⟨inner, after⟩, bodyMeant, same⟩ := Option.bind_eq_some_iff.1 meant
          obtain ⟨rfl, rfl⟩ := Prod.mk.inj (Option.some.inj same)
          exact (ih bodyMeant).pattern
      | plain change =>
          obtain ⟨⟨inner, after⟩, bodyMeant, same⟩ := Option.bind_eq_some_iff.1 meant
          obtain ⟨rfl, rfl⟩ := Prod.mk.inj (Option.some.inj same)
          exact (ih bodyMeant).pattern
  | repetition least most greedy body ih =>
      obtain ⟨⟨inner, after⟩, bodyMeant, same⟩ := Option.bind_eq_some_iff.1 meant
      obtain ⟨rfl, rfl⟩ := Prod.mk.inj (Option.some.inj same)
      exact Pattern.ordered_repeated (ih bodyMeant).pattern
  | sequence first rest firstIh restIh =>
      obtain ⟨⟨one, between⟩, firstMeant, meant⟩ := Option.bind_eq_some_iff.1 meant
      obtain ⟨⟨other, after⟩, restMeant, same⟩ := Option.bind_eq_some_iff.1 meant
      obtain ⟨rfl, rfl⟩ := Prod.mk.inj (Option.some.inj same)
      exact List.forall_mem_cons.2 ⟨(firstIh firstMeant).pattern, (restIh restMeant).asParts⟩
  | choice first rest firstIh restIh =>
      obtain ⟨⟨one, between⟩, firstMeant, meant⟩ := Option.bind_eq_some_iff.1 meant
      obtain ⟨⟨other, after⟩, restMeant, same⟩ := Option.bind_eq_some_iff.1 meant
      obtain ⟨rfl, rfl⟩ := Prod.mk.inj (Option.some.inj same)
      exact List.forall_mem_cons.2 ⟨(firstIh firstMeant).pattern, (restIh restMeant).asBranches⟩

end ModalLexer
