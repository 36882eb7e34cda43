import ModalLexer.Proofs.Literal.Matching
import ModalLexer.Proofs.Pattern.MatchRenumbered
import ModalLexer.Proofs.Pattern.Sets

/-! # What comes behind a pattern

A pattern is tried until what comes behind it succeeds (`Pattern.seek`).  That is all that a pattern
contributes to a search: a sequence tries its first part until the rest succeeds, and a choice tries
one branch after the other, however they were put together (`Pattern.seek_sequenceAll`,
`Pattern.seek_chooseApart`).  Only a beginning that is set apart for several branches makes a
difference: its ways are then tried before the branches are. -/
set_option autoImplicit false
namespace ModalLexer

section Firsts

variable {α : Type}

theorem findSome?_eq_bind_find? {β : Type} (f : α → Option β) (xs : List α) :
    xs.findSome? f = (xs.find? fun x => (f x).isSome).bind f := by
  induction xs with
  | nil => rfl
  | cons x xs ih =>
      rw [List.findSome?_cons, List.find?_cons]
      cases found : f x with
      | none => exact ih
      | some y => exact found.symm

theorem findSome?_firsts {goal : Spot → Option α} {ps : List Path}
    (agree : ∀ p ∈ ps, ∀ q ∈ ps, p.offset = q.offset → p.spot = q.spot) :
    (firsts ps).findSome? (fun q => goal q.spot) = ps.findSome? fun q => goal q.spot := by
  rw [findSome?_eq_bind_find?, findSome?_eq_bind_find?, find?_firsts]
  intro p inPaths q inPaths' same
  rw [agree p inPaths q inPaths' same]

theorem findSome?_congr {β : Type} {f g : β → Option α} {xs : List β}
    (same : ∀ x ∈ xs, f x = g x) : xs.findSome? f = xs.findSome? g := by
  induction xs with
  | nil => rfl
  | cons x xs ih =>
      rw [List.forall_mem_cons] at same
      rw [List.findSome?_cons, List.findSome?_cons, same.1, ih same.2]

theorem findSome?_flatMap {β γ : Type} (f : β → List γ) (g : γ → Option α) (xs : List β) :
    (xs.flatMap f).findSome? g = xs.findSome? fun x => (f x).findSome? g := by
  induction xs with
  | nil => rfl
  | cons x xs ih =>
      rw [List.flatMap_cons, List.findSome?_append, ih, List.findSome?_cons]
      cases (f x).findSome? g <;> rfl

end Firsts

namespace Pattern

variable {α : Type}

/-- Tries the ways through a pattern, in order, until one ends at a place where the goal gives
something. -/
def seek (pattern : Pattern) (goal : Spot → Option α) (s : Spot) : Option α :=
  (pattern.run none (.start s)).findSome? fun q => goal q.spot

theorem spot_eq_of_goesOn {p q r : Path} (one : p.GoesOn q) (other : p.GoesOn r)
    (same : q.offset = r.offset) : q.spot = r.spot :=
  Spot.eq_of_offset_eq (one.place.leads.text_eq.trans other.place.leads.text_eq.symm) same

theorem findSome?_run (pattern : Pattern) (goal : Spot → Option α) {p : Path}
    (fresh : p.passed = []) :
    (pattern.run none p).findSome? (fun q => goal q.spot) = pattern.seek goal p.spot := by
  have same : p = (Path.start p.spot).regroup (· ++ p.groups) := by
    obtain ⟨spot, groups, passed⟩ := p
    dsimp only at fresh
    subst fresh
    rfl
  rw [same, run_append, List.findSome?_map]
  rfl

/-- The first way through a pattern is the one that is found if every place will do. -/
theorem seek_some (pattern : Pattern) (s : Spot) :
    pattern.seek some s = (pattern.first? s).map (·.spot) := by
  rw [seek, first?_eq_head?]
  cases pattern.run none (.start s) <;> rfl

variable (goal : Spot → Option α) (s : Spot)

theorem seek_nothing : nothing.seek goal s = goal s := by
  simp [seek, run, Path.start]

theorem seek_literal (chars : List Char) :
    (literal chars).seek goal s = (s.skip? chars).bind goal := by
  rw [seek, run]
  cases found : s.skip? chars <;> simp [Path.start, Path.moveTo, found]

theorem seek_set (chars : CharSet) (ofBytes : Bool) : (set chars ofBytes).seek goal s =
    s.next?.bind fun (c, t) => if chars.contains c then goal t else none := by
  simp only [seek, run, Path.start]
  cases s.next? with
  | none => rfl
  | some next =>
      simp only [Option.bind_some]
      split <;> simp [Path.moveTo]

theorem seek_look (kind : Look) :
    (look kind).seek goal s = if kind.holds s then goal s else none := by
  have whole : (look kind).run none (.start s) = if kind.holds s then [.start s] else [] := rfl
  rw [seek, whole]
  split
  · exact List.findSome?_singleton
  · rfl

theorem seek_sequence (first rest : Pattern) :
    (sequence first rest).seek goal s = first.seek (rest.seek goal) s := by
  have whole : (sequence first rest).run none (.start s) =
      firsts ((first.run none (.start s)).flatMap (rest.run none)) := rfl
  rw [seek, whole, findSome?_firsts, findSome?_flatMap, seek]
  · refine findSome?_congr fun q member => ?_
    exact findSome?_run rest goal (passed_of_run first _ rfl q member)
  · intro p inPaths q inPaths' same
    obtain ⟨p', early, later⟩ := List.mem_flatMap.1 inPaths
    obtain ⟨q', early', later'⟩ := List.mem_flatMap.1 inPaths'
    exact spot_eq_of_goesOn ((run_goesOn first _ _ p' early).trans (run_goesOn rest _ p' p later))
      ((run_goesOn first _ _ q' early').trans (run_goesOn rest _ q' q later')) same

theorem seek_choice (first rest : Pattern) :
    (choice first rest).seek goal s = (first.seek goal s).or (rest.seek goal s) := by
  have whole : (choice first rest).run none (.start s) =
      firsts (first.run none (.start s) ++ rest.run none (.start s)) := rfl
  have onward : ∀ q ∈ first.run none (.start s) ++ rest.run none (.start s),
      (Path.start s).GoesOn q := by
    intro q member
    rcases List.mem_append.1 member with early | late
    · exact run_goesOn first none _ q early
    · exact run_goesOn rest none _ q late
  rw [seek, whole, findSome?_firsts, List.findSome?_append]
  · rfl
  · exact fun p inPaths q inPaths' => spot_eq_of_goesOn (onward p inPaths) (onward q inPaths')

theorem seek_shift (d : Nat) (p : Pattern) : (p.shift d).seek goal s = p.seek goal s := by
  have ways := run_shift d none p (.start s)
  rw [Path.start_shift] at ways
  rw [seek, ways, List.findSome?_map]
  rfl

/-! ## Sequences -/

/-- Tries the parts of a sequence, each until the ones behind it succeed. -/
def seekAll : List Pattern → (Spot → Option α) → Spot → Option α
  | [], goal => goal
  | p :: ps, goal => p.seek (seekAll ps goal)

theorem seekAll_append (ps qs : List Pattern) :
    seekAll (ps ++ qs) goal = seekAll ps (seekAll qs goal) := by
  induction ps with
  | nil => rfl
  | cons p ps ih => rw [List.cons_append, seekAll, ih, seekAll]

theorem seekAll_parts (p : Pattern) : seekAll p.parts goal = p.seek goal := by
  induction p with
  | nothing => exact funext fun s => (seek_nothing goal s).symm
  | sequence first rest firstIh restIh =>
      rw [parts, seekAll, restIh]
      exact funext fun s => (seek_sequence goal s first rest).symm
  | _ => rfl

theorem seekAll_flatMap_parts (ps : List Pattern) :
    seekAll (ps.flatMap parts) goal = seekAll ps goal := by
  induction ps with
  | nil => rfl
  | cons p ps ih => rw [List.flatMap_cons, seekAll_append, ih, seekAll_parts, seekAll]

theorem skip?_append (front back : List Char) :
    s.skip? (front ++ back) = (s.skip? front).bind (·.skip? back) := by
  induction front generalizing s with
  | nil => rfl
  | cons c front ih =>
      rw [List.cons_append, Spot.skip?, Spot.skip?]
      cases s.next? with
      | none => rfl
      | some next =>
          dsimp only
          split
          · exact ih _
          · rfl

theorem seekAll_consPart (part : Pattern) (ps : List Pattern) :
    seekAll (consPart part ps) goal = part.seek (seekAll ps goal) := by
  unfold consPart
  split
  · next front back rest =>
      funext s
      rw [seekAll, seekAll, seek_literal, seek_literal, skip?_append, Option.bind_assoc]
      exact Option.bind_congr fun t _ => (seek_literal _ t back).symm
  · rfl

theorem seek_foldSequence (ps : List Pattern) :
    (foldSequence ps).seek goal = seekAll ps goal := by
  induction ps with
  | nil => exact funext fun s => seek_nothing goal s
  | cons p ps ih =>
      cases ps with
      | nil => rfl
      | cons q ps =>
          funext s
          have whole : foldSequence (p :: q :: ps) = sequence p (foldSequence (q :: ps)) := rfl
          rw [whole, seek_sequence, ih]
          rfl

/-- A sequence tries each of its parts until the ones behind it succeed. -/
theorem seek_sequenceAll (ps : List Pattern) :
    (sequenceAll ps).seek goal = seekAll ps goal := by
  have merged (qs : List Pattern) : seekAll (qs.foldr consPart []) goal = seekAll qs goal := by
    induction qs with
    | nil => rfl
    | cons q qs ih => rw [List.foldr_cons, seekAll_consPart, ih, seekAll]
  rw [sequenceAll, seek_foldSequence, merged, seekAll_flatMap_parts]

/-! ## Choices -/

theorem seek_branches (p : Pattern) :
    p.branches.findSome? (fun q => q.seek goal s) = p.seek goal s := by
  induction p with
  | choice first rest _ ih =>
      rw [branches, List.findSome?_cons, ih, seek_choice]
      cases first.seek goal s <;> rfl
  | _ => exact List.findSome?_singleton

theorem seek_flatMap_branches (ps : List Pattern) :
    (ps.flatMap branches).findSome? (fun q => q.seek goal s) =
      ps.findSome? fun p => p.seek goal s := by
  rw [findSome?_flatMap]
  exact findSome?_congr fun p _ => seek_branches goal s p

theorem seek_foldChoice (ps : List Pattern) :
    (foldChoice ps).seek goal s = ps.findSome? fun p => p.seek goal s := by
  induction ps with
  | nil =>
      rw [foldChoice, never, seek_set]
      cases s.next? <;> rfl
  | cons p ps ih =>
      cases ps with
      | nil => exact List.findSome?_singleton.symm
      | cons q ps =>
          have whole : foldChoice (p :: q :: ps) = choice p (foldChoice (q :: ps)) := rfl
          rw [whole, seek_choice, ih, List.findSome?_cons (a := p)]
          cases p.seek goal s <;> rfl

/-- Goes on behind the next character, if it is there and something holds of it. -/
def seekChar (holds : Char → Bool) (goal : Spot → Option α) (s : Spot) : Option α :=
  s.next?.bind fun (c, t) => if holds c then goal t else none

theorem seek_literal_singleton (c : Char) :
    (literal [c]).seek goal s = seekChar (· == c) goal s := by
  rw [seek_literal, Spot.skip?, seekChar]
  cases s.next? with
  | none => rfl
  | some next =>
      simp only [Spot.skip?, Option.bind_some, beq_iff_eq]
      split <;> rfl

theorem seek_ofSet (chars : CharSet) : (ofSet chars).seek goal s = seekChar chars.contains goal s := by
  unfold ofSet
  split
  · next c only =>
      rw [seek_literal_singleton]
      exact congrArg (seekChar · goal s) (funext fun d => (CharSet.contains_of_only? only d).symm)
  · exact seek_set goal s chars _

/-- Patterns that each match one character match as a set together. -/
theorem findSome?_seekChar {β : Type} {holds : β → Char → Bool} {ps : List Pattern} {xs : List β}
    (each : List.Forall₂ (fun p x => p.seek goal s = seekChar (holds x) goal s) ps xs) :
    ps.findSome? (fun p => p.seek goal s) = seekChar (fun c => xs.any (holds · c)) goal s := by
  induction each with
  | nil =>
      rw [seekChar]
      cases s.next? <;> rfl
  | @cons p x ps xs first _ ih =>
      rw [List.findSome?_cons, first, ih, seekChar, seekChar, seekChar]
      cases s.next? with
      | none => rfl
      | some next =>
          by_cases taken : holds x next.1 = true
          · -- Where the goal gives nothing, it gives nothing for the others either.
            cases given : goal next.2 <;> simp [taken, given]
          · simp [taken]

theorem seek_chooseApart {ps : List Pattern} (up : ∀ p ∈ ps, p.Ordered) :
    (chooseApart ps).seek goal s = ps.findSome? fun p => p.seek goal s := by
  unfold chooseApart
  split
  · exact List.findSome?_singleton.symm
  · split
    · next chars all =>
        have each : List.Forall₂ (fun p c => p.seek goal s = seekChar (· == c) goal s) ps chars := by
          refine (forall₂_of_mapM all).imp fun p c only => ?_
          unfold onlyChar? at only
          split at only
          · obtain rfl := Option.some.inj only
            exact seek_literal_singleton goal s _
          · cases only
        rw [findSome?_seekChar goal s each, seek_ofSet]
        refine congrArg (seekChar · goal s) (funext fun c => ?_)
        rw [CharSet.contains_ofChars, List.contains_eq_any_beq]
    · split
      · next sets all =>
          have each : List.Forall₂ (fun p chars => p.seek goal s = seekChar (CharSet.contains chars)
              goal s) ps sets := by
            refine (forall₂_of_mapM all).imp fun p chars only => ?_
            unfold set? at only
            split at only
            · obtain rfl := Option.some.inj only
              exact seek_set goal s _ _
            · cases only
          rw [findSome?_seekChar goal s each, seek_ofSet]
          exact congrArg (seekChar · goal s)
            (funext (CharSet.contains_unions (ordered_of_mapM_set? all up)))
      · exact seek_foldChoice goal s ps

/-! ## Branches that begin alike -/

/-- What some branches begin with in common, if they do, can be matched at a place in one way at
most. -/
def SharesOneWay (branches : List Pattern) (s : Spot) : Prop :=
  ∀ shared ∈ sharedStart? branches, ((sequenceAll shared.1).run none (.start s)).length ≤ 1

instance (branches : List Pattern) (s : Spot) : Decidable (SharesOneWay branches s) :=
  inferInstanceAs (Decidable (∀ shared ∈ sharedStart? branches, _ ≤ 1))

theorem exists_seek_eq_bind {p : Pattern} {s : Spot}
    (oneWay : (p.run none (.start s)).length ≤ 1) :
    ∃ stop? : Option Spot, ∀ goal : Spot → Option α, p.seek goal s = stop?.bind goal := by
  refine ⟨(p.run none (.start s)).head?.map (·.spot), fun goal => ?_⟩
  rw [seek]
  match p.run none (.start s), oneWay with
  | [], _ => rfl
  | [q], _ => exact List.findSome?_singleton

theorem seekAll_of_sequenceParts? {p : Pattern} {ps : List Pattern}
    (parts : p.sequenceParts? = some ps) : seekAll ps goal = p.seek goal := by
  have sequence : p.parts = ps := by
    unfold sequenceParts? at parts
    split at parts
    · exact Option.some.inj parts
    · cases parts
  rw [← sequence, seekAll_parts]

/-- A choice tries its branches one after the other, unless they begin alike in several ways. -/
theorem seek_choose {ps : List Pattern} (up : ∀ p ∈ ps, p.Ordered)
    (oneWay : SharesOneWay (ps.flatMap branches) s) :
    (choose ps).seek goal s = (ps.flatMap branches).findSome? fun p => p.seek goal s := by
  have upAll := ordered_flatMap_branches up
  unfold choose
  simp only
  generalize ps.flatMap branches = all at oneWay upAll ⊢
  split
  · next start ends shared =>
      obtain ⟨stop?, onward⟩ := exists_seek_eq_bind (α := α) (oneWay _ shared)
      obtain ⟨-, upEnds⟩ := ordered_ends upAll shared
      obtain ⟨sequences, n, sequenced, -, alike, rfl⟩ := exists_of_sharedStart? shared
      have each : ∀ parts ∈ sequences, seekAll parts goal s =
          stop?.bind ((sequenceAll (parts.drop n)).seek goal) := by
        intro parts member
        rw [← onward, seek_sequenceAll, seek_sequenceAll, ← seekAll_append, ← alike parts member,
          List.take_append_drop]
      have before : all.findSome? (fun p => p.seek goal s) =
          sequences.findSome? fun parts => seekAll parts goal s := by
        clear * - sequenced
        induction sequenced with
        | nil => rfl
        | cons first _ ih =>
            rw [List.findSome?_cons, List.findSome?_cons, ih, seekAll_of_sequenceParts? goal first]
      have behind (t : Spot) : (chooseApart ((sequences.map fun parts =>
          sequenceAll (parts.drop n)).flatMap branches)).seek goal t =
            sequences.findSome? fun parts => (sequenceAll (parts.drop n)).seek goal t := by
        rw [seek_chooseApart goal t (ordered_flatMap_branches upEnds), seek_flatMap_branches,
          List.findSome?_map]
        rfl
      rw [before, findSome?_congr each, seek_sequenceAll, seekAll_append, ← seek_sequenceAll, onward]
      cases stop? with
      | none => exact (List.findSome?_eq_none_iff.2 fun _ _ => rfl).symm
      | some t => exact behind t
  · exact seek_chooseApart goal s upAll

end Pattern

/-! ## Pieces -/

namespace Piece

variable {α : Type} (goal : Spot → Option α) (s : Spot)

/-- What the branches of a choice begin with in common, if they do, can be matched at a place in one
way at most. -/
def SharesOneWay (piece : Piece) (s : Spot) : Prop :=
  match piece with
  | .whole _ => True
  | .parts _ => True
  | .branches ps => Pattern.SharesOneWay (ps.flatMap Pattern.branches) s

instance (piece : Piece) (s : Spot) : Decidable (piece.SharesOneWay s) :=
  match piece with
  | .whole _ => isTrue trivial
  | .parts _ => isTrue trivial
  | .branches ps => inferInstanceAs (Decidable (Pattern.SharesOneWay (ps.flatMap _) s))

theorem seek_pattern {piece : Piece} (up : piece.Ordered) (oneWay : piece.SharesOneWay s) :
    piece.pattern.seek goal s = piece.asBranches.findSome? fun p => p.seek goal s := by
  cases piece with
  | whole p => exact List.findSome?_singleton.symm
  | parts ps => exact List.findSome?_singleton.symm
  | branches ps =>
      rw [asBranches, ← Pattern.seek_flatMap_branches]
      exact Pattern.seek_choose goal s up oneWay

end Piece

end ModalLexer
