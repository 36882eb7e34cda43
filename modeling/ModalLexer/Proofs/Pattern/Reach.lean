import ModalLexer.Pattern.Match

/-! # How far a match reaches

A way through a pattern goes on from where it starts, in the same text, and every group that it
closes lies between the two places (`Pattern.run_goesOn`).  So whatever a search reports lies
between the place searched from and the place reached. -/
set_option autoImplicit false
namespace ModalLexer

/-- One place of a text is not behind another. -/
def Spot.LeadsOn (s t : Spot) : Prop := ∃ text, Spot.Leads s text t

namespace Spot.LeadsOn

theorem refl (s : Spot) : s.LeadsOn s := ⟨[], Leads.refl s⟩

theorem trans {s t u : Spot} (first : s.LeadsOn t) (second : t.LeadsOn u) : s.LeadsOn u := by
  obtain ⟨a, first⟩ := first
  obtain ⟨b, second⟩ := second
  exact ⟨a ++ b, first.trans second⟩

theorem leads {s t : Spot} (onward : s.LeadsOn t) : Leads s (s.upTo t) t := by
  obtain ⟨a, between⟩ := onward
  rw [between.upTo_eq]
  exact between

theorem length_le {s t : Spot} (onward : s.LeadsOn t) : t.rest.length ≤ s.rest.length := by
  rw [onward.leads.1, List.length_append]
  exact Nat.le_add_left _ _

theorem eq_of_length_le {s t : Spot} (onward : s.LeadsOn t)
    (full : s.rest.length ≤ t.rest.length) : t = s := by
  obtain ⟨a, between⟩ := onward
  have none_between : a = [] := by
    have lengths := congrArg List.length between.1
    rw [List.length_append] at lengths
    exact List.length_eq_zero_iff.1 (by omega)
  subst none_between
  exact Spot.ext_of between.2 between.1.symm

theorem eq_of_offset_eq {s t : Spot} (onward : s.LeadsOn t) (same : t.offset = s.offset) :
    t = s := by
  obtain ⟨a, between⟩ := onward
  have none_between : a = [] := by
    have offsets := between.offset_eq
    exact byteLength_eq_zero_iff.1 (by omega)
  subst none_between
  exact Spot.ext_of between.2 between.1.symm

end Spot.LeadsOn

def Extent.Between (e : Extent) (s t : Spot) : Prop :=
  s.LeadsOn e.start ∧ e.start.LeadsOn e.stop ∧ e.stop.LeadsOn t

/-- One path continues another: it stands at no earlier place, and the groups it has in addition
lie between the two places. -/
structure Path.GoesOn (p q : Path) : Prop where
  place : p.spot.LeadsOn q.spot
  groups : ∀ g ∈ q.groups, g ∈ p.groups ∨ g.2.Between p.spot q.spot

namespace Path

theorem GoesOn.of_groups_eq {p q : Path} (place : p.spot.LeadsOn q.spot)
    (same : q.groups = p.groups) : p.GoesOn q := by
  refine ⟨place, ?_⟩
  intro g member
  rw [same] at member
  exact .inl member

theorem GoesOn.refl (p : Path) : p.GoesOn p := .of_groups_eq (.refl p.spot) rfl

theorem GoesOn.trans {p q r : Path} (first : p.GoesOn q) (second : q.GoesOn r) : p.GoesOn r := by
  refine ⟨first.place.trans second.place, ?_⟩
  intro g member
  rcases second.groups g member with earlier | ⟨before, inside, behind⟩
  · rcases first.groups g earlier with known | ⟨before, inside, behind⟩
    · exact .inl known
    · exact .inr ⟨before, inside, behind.trans second.place⟩
  · exact .inr ⟨first.place.trans before, inside, behind⟩

theorem GoesOn.close {p q : Path} (onward : p.GoesOn q) (index : Nat) :
    p.GoesOn (q.close index p.spot) := by
  refine ⟨onward.place, ?_⟩
  intro g member
  rcases List.mem_cons.1 member with rfl | member
  · exact .inr ⟨.refl p.spot, onward.place, .refl q.spot⟩
  · exact onward.groups g member

theorem mem_groups_of_group? {p : Path} {index : Nat} {e : Extent}
    (found : p.group? index = some e) : (index, e) ∈ p.groups := by
  obtain ⟨before, after, split, -⟩ := List.lookup_eq_some_iff.1 found
  rw [split]
  exact List.mem_append_right before List.mem_cons_self

end Path

/-- A property of paths that does not depend on the branching points they passed. -/
def Forgetful (P : Path → Prop) : Prop :=
  ∀ (p : Path) (passed : List Address), P p → P { p with passed }

/-- A property of paths is kept where they pass a branching point. -/
def KeptAt (P : Path → Prop) (point : Option Address) : Prop :=
  ∀ p q : Path, p.pass? point = some q → P p → P q

/-- A body hands a property of paths on to every way through it. -/
def HandsOn (P : Path → Prop) (body : Path → List Path) : Prop := ∀ p, P p → ∀ q ∈ body p, P q

def Visits.All (P : Path → Prop) (v : Visits) : Prop := ∀ q ∈ v.found, P q

section Rounds

variable {P : Path → Prop}

/-- A point without an address leaves paths as they are. -/
theorem keptAt_none (P : Path → Prop) : KeptAt P none := by
  intro p q passed holds
  obtain rfl := Option.some.inj passed
  exact holds

theorem Forgetful.keptAt (forgetful : Forgetful P) (point : Option Address) : KeptAt P point := by
  cases point with
  | none => exact keptAt_none P
  | some address =>
      intro p q passed holds
      simp only [Path.pass?] at passed
      split at passed
      · cases passed
      · obtain rfl := Option.some.inj passed
        exact forgetful p _ holds

theorem mem_of_mem_firstsFrom {seen : BitSet} {ps : List Path} {q : Path}
    (member : q ∈ firstsFrom seen ps) : q ∈ ps := by
  induction ps generalizing seen with
  | nil => exact member
  | cons p ps ih =>
      simp only [firstsFrom] at member
      split at member
      · exact List.mem_cons_of_mem p (ih member)
      · rcases List.mem_cons.1 member with rfl | member
        · exact List.mem_cons_self
        · exact List.mem_cons_of_mem p (ih member)

theorem mem_of_mem_firsts {ps : List Path} {q : Path} (member : q ∈ firsts ps) : q ∈ ps := by
  match ps with
  | [] => exact member
  | [_] => exact member
  | _ :: _ :: _ => exact mem_of_mem_firstsFrom member

theorem Visits.All.foldl {visit : Visits → Path → Visits}
    (kept : ∀ v q, Visits.All P v → P q → Visits.All P (visit v q)) {v : Visits} {ps : List Path}
    (all : v.All P) (holds : ∀ q ∈ ps, P q) : (ps.foldl visit v).All P := by
  induction ps generalizing v with
  | nil => exact all
  | cons p ps ih =>
      have first := kept v p all (holds p List.mem_cons_self)
      exact ih first fun q member => holds q (List.mem_cons_of_mem p member)

theorem Visits.All.cons {v : Visits} {p : Path} (all : v.All P) (holds : P p) (seen : BitSet) :
    Visits.All P ⟨seen, p :: v.found⟩ := by
  intro q member
  rcases List.mem_cons.1 member with rfl | member
  · exact holds
  · exact all q member

theorem Visits.All.empty (seen : BitSet) : Visits.All P ⟨seen, []⟩ :=
  fun _ member => absurd member List.not_mem_nil

theorem roundsFrom_all {body : Path → List Path} (handsOn : HandsOn P body) (greedy : Bool)
    {point : Option Address} (kept : KeptAt P point) (fuel : Nat) {v : Visits} {p : Path}
    (all : v.All P) (holds : P p) :
    (roundsFrom body greedy point fuel v p).All P := by
  induction fuel generalizing v p with
  | zero => exact all
  | succ fuel ih =>
      simp only [roundsFrom]
      split
      · exact all
      · cases passed : p.pass? point with
        | none => exact all
        | some q =>
            have here : P q := kept p q passed holds
            have round (entered : Visits) (known : entered.All P) :
                ((body q).foldl (roundsFrom body greedy point fuel) entered).All P :=
              Visits.All.foldl (fun _ _ => ih) known (handsOn q here)
            cases greedy with
            | true => exact (round { v with seen := v.seen.insert p.offset } all).cons here _
            | false => exact round _ (all.cons here _)

theorem upToRounds_all {body : Nat → Path → List Path} (handsOn : ∀ k, HandsOn P (body k))
    {point : Nat → Option Address} (kept : ∀ k, KeptAt P (point k)) (greedy : Bool)
    (most left : Nat) {v : Visits} {p : Path} (all : v.All P) (holds : P p) :
    (upToRounds body point greedy most left v p).All P := by
  induction left generalizing v p with
  | zero =>
      simp only [upToRounds]
      split
      · exact all
      · exact all.cons holds _
  | succ left ih =>
      simp only [upToRounds]
      split
      · exact all
      · cases passed : p.pass? (point (left + 1)) with
        | none => exact all
        | some q =>
            have here : P q := kept (left + 1) p q passed holds
            have round (entered : Visits) (known : entered.All P) :
                Visits.All P
                  ((body (left + 1) q).foldl (upToRounds body point greedy most left) entered) :=
              Visits.All.foldl (fun _ _ => ih) known (handsOn (left + 1) q here)
            cases greedy with
            | true =>
                let key := p.offset * (most + 1) + left + 1
                exact (round { v with seen := v.seen.insert key } all).cons here _
            | false => exact round _ (all.cons here _)

theorem exactRounds_all {body : Nat → Path → List Path} (handsOn : ∀ k, HandsOn P (body k))
    (n : Nat) {ps : List Path} (holds : ∀ p ∈ ps, P p) : ∀ q ∈ exactRounds body n ps, P q := by
  induction n generalizing ps with
  | zero => exact holds
  | succ n ih =>
      apply ih
      intro q member
      obtain ⟨p, known, reached⟩ := List.mem_flatMap.1 (mem_of_mem_firsts member)
      exact handsOn (n + 1) p (holds p known) q reached

namespace Pattern

theorem atLeastOnce_handsOn {body : Path → List Path} (handsOn : HandsOn P body) (greedy : Bool)
    {point : Option Address} (kept : KeptAt P point) : HandsOn P (atLeastOnce body greedy point) := by
  intro p holds q member
  have found := List.mem_reverse.1 (mem_of_mem_firsts member)
  have rounds := Visits.All.foldl
    (fun _ _ => roundsFrom_all handsOn greedy kept (p.spot.rest.length + 1))
    (Visits.All.empty .empty) (handsOn p holds)
  exact rounds q found

theorem anyTimes_handsOn {body : Path → List Path} (handsOn : HandsOn P body) (greedy : Bool)
    {point : Option Address} (kept : KeptAt P point) : HandsOn P (anyTimes body greedy point) := by
  intro p holds q member
  have rounds := roundsFrom_all handsOn greedy kept (p.spot.rest.length + 1)
    (Visits.All.empty .empty) holds
  exact rounds q (List.mem_reverse.1 member)

theorem orNot_handsOn {way : Path → List Path} (handsOn : HandsOn P way) (greedy : Bool)
    {point : Option Address} (kept : KeptAt P point) : HandsOn P (orNot way greedy point) := by
  intro p holds r member
  simp only [orNot] at member
  cases passed : p.pass? point with
  | none =>
      rw [passed] at member
      cases member
  | some q =>
      rw [passed] at member
      have here : P q := kept p q passed holds
      have either : r = q ∨ r ∈ way q := by
        cases greedy with
        | true =>
            have listed := List.mem_append.1 (mem_of_mem_firsts member)
            exact listed.symm.imp_left List.mem_singleton.1
        | false => exact List.mem_cons.1 (mem_of_mem_firsts member)
      rcases either with rfl | reached
      · exact here
      · exact handsOn q here r reached

theorem runRepetition_handsOn {body : Nat → Path → List Path} (handsOn : ∀ k, HandsOn P (body k))
    (consumes : Bool) (least : Nat) (most : Option Nat) (greedy : Bool) {place : Option Address}
    (kept : KeptAt P place) (inner : ∀ k, KeptAt P (within k place)) :
    HandsOn P (runRepetition body consumes least most greedy place) := by
  intro p holds q member
  have alone : ∀ r ∈ [p], P r := by
    intro r only
    rw [List.mem_singleton.1 only]
    exact holds
  have once := atLeastOnce_handsOn (handsOn 1) greedy (inner 0)
  cases most with
  | none =>
      cases least with
      | zero =>
          cases consumes with
          | true =>
              exact anyTimes_handsOn (handsOn 1) greedy (inner 0) p holds q member
          | false => exact orNot_handsOn once greedy kept p holds q member
      | succ n =>
          obtain ⟨r, known, reached⟩ := List.mem_flatMap.1 (mem_of_mem_firsts member)
          exact once r (exactRounds_all (fun k => handsOn (2 * k + 1)) n alone r known) q reached
  | some m =>
      obtain ⟨r, known, reached⟩ := List.mem_flatMap.1 (mem_of_mem_firsts member)
      have first : P r := exactRounds_all (fun k => handsOn (2 * (k + (m - least)) + 1)) least alone
        r known
      have rounds := upToRounds_all (fun k => handsOn (2 * k + 1)) (fun k => inner (2 * k)) greedy
        (m - least) (m - least) (Visits.All.empty .empty) first
      exact rounds q (List.mem_reverse.1 reached)

end Pattern

end Rounds

theorem Path.goesOn_forgetful (p : Path) : Forgetful p.GoesOn :=
  fun _ _ onward => ⟨onward.place, onward.groups⟩

/-- Every way through a pattern goes on from the path it starts with. -/
theorem Pattern.run_goesOn (pattern : Pattern) (place : Option Address) (p : Path) :
    ∀ q ∈ pattern.run place p, p.GoesOn q := by
  -- The paths behind a fixed one are closed under going through any part of the pattern.
  have handsOn {part : Pattern} {place : Option Address} (origin : Path)
      (ih : ∀ p, ∀ q ∈ part.run place p, p.GoesOn q) : HandsOn origin.GoesOn (part.run place) :=
    fun p onward q member => onward.trans (ih p q member)
  induction pattern generalizing place p with
  | nothing =>
      intro q member
      rw [List.mem_singleton.1 member]
      exact .refl p
  | literal chars =>
      intro q member
      obtain ⟨s, skipped, rfl⟩ := Option.map_eq_some_iff.1 (Option.mem_toList.1 member)
      exact .of_groups_eq ⟨chars, (Spot.skip?_eq_some_iff chars).1 skipped⟩ rfl
  | set chars ofBytes =>
      intro q member
      simp only [run] at member
      cases stepped : p.spot.next? with
      | none =>
          rw [stepped] at member
          cases member
      | some next =>
          obtain ⟨c, s⟩ := next
          simp only [stepped] at member
          split at member
          · rw [List.mem_singleton.1 member]
            exact .of_groups_eq ⟨[c], Spot.next?_eq_some_iff.1 stepped⟩ rfl
          · cases member
  | look kind =>
      intro q member
      simp only [run] at member
      split at member
      · rw [List.mem_singleton.1 member]
        exact .refl p
      · cases member
  | group index name body ih =>
      intro q member
      obtain ⟨r, reached, rfl⟩ := List.mem_map.1 member
      exact (ih (within 0 place) p r reached).close index
  | sequence first rest first_ih rest_ih =>
      intro q member
      obtain ⟨r, reached, later⟩ := List.mem_flatMap.1 (mem_of_mem_firsts member)
      exact (first_ih (within 0 place) p r reached).trans (rest_ih (within 1 place) r q later)
  | choice first rest first_ih rest_ih =>
      intro q member
      simp only [run] at member
      cases passed : p.pass? place with
      | none =>
          rw [passed] at member
          cases member
      | some entered =>
          rw [passed] at member
          have onward : p.GoesOn entered := p.goesOn_forgetful.keptAt place p entered passed (.refl p)
          rcases List.mem_append.1 (mem_of_mem_firsts member) with member | member
          · exact onward.trans (first_ih (within 0 place) entered q member)
          · exact onward.trans (rest_ih (within 1 place) entered q member)
  | repetition least most greedy body ih =>
      have kept := p.goesOn_forgetful.keptAt
      intro q member
      simp only [run] at member
      split at member
      · obtain ⟨r, reached, rfl⟩ := List.mem_map.1 member
        have onward := runRepetition_handsOn (fun k => handsOn p (ih (within k (some [])))) false
          least most greedy (kept (some [])) (fun k => kept (within k (some []))) p (.refl p) r
          reached
        exact p.goesOn_forgetful r [] onward
      · exact runRepetition_handsOn (fun k => handsOn p (ih (within k place))) body.consumes least
          most greedy (kept place) (fun k => kept (within k place)) p (.refl p) q member

/-- Paths that remember no branching point, going through a pattern outside repetitions. -/
theorem Pattern.passed_of_run (pattern : Pattern) :
    HandsOn (fun p => p.passed = []) (pattern.run none) := by
  -- Outside repetitions no branching point has an address, so nothing is remembered.
  have kept := keptAt_none fun p : Path => p.passed = []
  induction pattern with
  | nothing =>
      intro p fresh q member
      rwa [List.mem_singleton.1 member]
  | literal chars =>
      intro p fresh q member
      obtain ⟨s, -, rfl⟩ := Option.map_eq_some_iff.1 (Option.mem_toList.1 member)
      rfl
  | set chars ofBytes =>
      intro p fresh q member
      simp only [run] at member
      split at member
      · split at member
        · rw [List.mem_singleton.1 member]
          rfl
        · cases member
      · cases member
  | look kind =>
      intro p fresh q member
      simp only [run] at member
      split at member
      · rwa [List.mem_singleton.1 member]
      · cases member
  | group index name body ih =>
      intro p fresh q member
      obtain ⟨r, reached, rfl⟩ := List.mem_map.1 member
      exact ih p fresh r reached
  | sequence first rest first_ih rest_ih =>
      intro p fresh q member
      obtain ⟨r, reached, later⟩ := List.mem_flatMap.1 (mem_of_mem_firsts member)
      exact rest_ih r (first_ih p fresh r reached) q later
  | choice first rest first_ih rest_ih =>
      intro p fresh q member
      rcases List.mem_append.1 (mem_of_mem_firsts member) with early | late
      · exact first_ih p fresh q early
      · exact rest_ih p fresh q late
  | repetition least most greedy body ih =>
      intro p fresh q member
      simp only [run] at member
      split at member
      · obtain ⟨r, -, rfl⟩ := List.mem_map.1 member
        rfl
      · exact runRepetition_handsOn (fun _ => ih) body.consumes least most greedy kept
          (fun _ => kept) p fresh q member

/-- What a search reports of a group lies between the place searched from and the place reached. -/
theorem Pattern.between_of_first? {pattern : Pattern} {s : Spot} {path : Path} {index : Nat}
    {e : Extent} (found : pattern.first? s = some path) (group : path.group? index = some e) :
    e.Between s path.spot := by
  rw [first?_eq_head?] at found
  have onward := run_goesOn pattern none (.start s) path (List.mem_of_head? found)
  rcases onward.groups (index, e) (Path.mem_groups_of_group? group) with early | between
  · cases early
  · exact between

end ModalLexer
