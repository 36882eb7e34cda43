import ModalLexer.Pattern.Match
import ModalLexer.Proofs.Pattern.Renumber

/-! # Matching does not look at the groups of a path

Of the groups that a path carries matching only adds to them.  A path whose groups are changed in some
way is gone on with in the same ways, each with its groups changed likewise, if closing a group goes
along with the change (`Pattern.run_regroup`).  So where a path leads to does not depend on the groups
that it has closed (`Pattern.run_append`). -/
set_option autoImplicit false
namespace ModalLexer

/-- The numbers of groups with their extents, the latest first. -/
abbrev ClosedGroups := List (Nat × Extent)

/-- The same path with its groups changed. -/
def Path.regroup (change : ClosedGroups → ClosedGroups) (p : Path) : Path :=
  { p with groups := change p.groups }

namespace Path

variable (change : ClosedGroups → ClosedGroups) (p : Path)

@[simp] theorem spot_regroup : (p.regroup change).spot = p.spot := rfl

@[simp] theorem offset_regroup : (p.regroup change).offset = p.offset := rfl

theorem pass?_regroup (point : Option Address) :
    (p.regroup change).pass? point = (p.pass? point).map (regroup change) := by
  cases point with
  | none => rfl
  | some address =>
      simp only [pass?, show (p.regroup change).passed = p.passed from rfl]
      split <;> rfl

end Path

/-- The same visits with the groups of the paths changed. -/
def Visits.regroup (change : ClosedGroups → ClosedGroups) (v : Visits) : Visits :=
  { v with found := v.found.map (Path.regroup change) }

/-- A body goes on from changed paths as another one does from the paths as they were. -/
def Regroups (change : ClosedGroups → ClosedGroups) (body changed : Path → List Path) : Prop :=
  ∀ p : Path, changed (p.regroup change) = (body p).map (Path.regroup change)

section Rounds

variable {change : ClosedGroups → ClosedGroups} {body changed : Path → List Path}

theorem firstsFrom_regroup (seen : BitSet) (ps : List Path) :
    firstsFrom seen (ps.map (Path.regroup change)) = (firstsFrom seen ps).map (Path.regroup change) := by
  induction ps generalizing seen with
  | nil => rfl
  | cons p ps ih =>
      simp only [List.map_cons, firstsFrom, Path.offset_regroup, ih]
      split <;> rfl

theorem firsts_regroup (ps : List Path) :
    firsts (ps.map (Path.regroup change)) = (firsts ps).map (Path.regroup change) := by
  match ps with
  | [] => rfl
  | [_] => rfl
  | p :: q :: rest => exact firstsFrom_regroup .empty (p :: q :: rest)

theorem Regroups.flatMap (regroups : Regroups change body changed) (ps : List Path) :
    (ps.map (Path.regroup change)).flatMap changed = (ps.flatMap body).map (Path.regroup change) := by
  rw [List.flatMap_map, List.map_flatMap]
  exact List.flatMap_congr fun p _ => regroups p

theorem foldl_regroup {visit visit' : Visits → Path → Visits}
    (same : ∀ v p, visit' (v.regroup change) (p.regroup change) = (visit v p).regroup change) (v : Visits)
    (ps : List Path) :
    (ps.map (Path.regroup change)).foldl visit' (v.regroup change) = (ps.foldl visit v).regroup change := by
  induction ps generalizing v with
  | nil => rfl
  | cons p ps ih => rw [List.map_cons, List.foldl_cons, List.foldl_cons, same, ih]

theorem roundsFrom_regroup (regroups : Regroups change body changed) (greedy : Bool)
    (point : Option Address) (fuel : Nat) (v : Visits) (p : Path) :
    roundsFrom changed greedy point fuel (v.regroup change) (p.regroup change) =
      (roundsFrom body greedy point fuel v p).regroup change := by
  induction fuel generalizing v p with
  | zero => rfl
  | succ fuel ih =>
      have onward (entered : Visits) (q : Path) :
          (changed (q.regroup change)).foldl (roundsFrom changed greedy point fuel) (entered.regroup change) =
            ((body q).foldl (roundsFrom body greedy point fuel) entered).regroup change := by
        rw [regroups q]
        exact foldl_regroup ih entered (body q)
      simp only [roundsFrom, Path.offset_regroup, Path.pass?_regroup,
        show (v.regroup change).seen = v.seen from rfl]
      split
      · rfl
      · cases p.pass? point with
        | none => rfl
        | some q =>
            simp only [Option.map_some]
            cases greedy with
            | true =>
                have round := onward { v with seen := v.seen.insert p.offset } q
                simp only [if_true, Visits.regroup] at round ⊢
                rw [round]
                rfl
            | false => exact onward ⟨v.seen.insert p.offset, q :: v.found⟩ q

theorem upToRounds_regroup {body changed : Nat → Path → List Path}
    (regroups : ∀ k, Regroups change (body k) (changed k)) (point : Nat → Option Address)
    (greedy : Bool) (most left : Nat) (v : Visits) (p : Path) :
    upToRounds changed point greedy most left (v.regroup change) (p.regroup change) =
      (upToRounds body point greedy most left v p).regroup change := by
  induction left generalizing v p with
  | zero =>
      simp only [upToRounds, Path.offset_regroup, show (v.regroup change).seen = v.seen from rfl]
      split <;> rfl
  | succ left ih =>
      have onward (entered : Visits) (q : Path) :
          (changed (left + 1) (q.regroup change)).foldl (upToRounds changed point greedy most left)
              (entered.regroup change) =
            Visits.regroup change
              ((body (left + 1) q).foldl (upToRounds body point greedy most left) entered) := by
        rw [regroups (left + 1) q]
        exact foldl_regroup ih entered (body (left + 1) q)
      simp only [upToRounds, Path.offset_regroup, Path.pass?_regroup,
        show (v.regroup change).seen = v.seen from rfl]
      split
      · rfl
      · cases p.pass? (point (left + 1)) with
        | none => rfl
        | some q =>
            simp only [Option.map_some]
            cases greedy with
            | true =>
                have round :=
                  onward { v with seen := v.seen.insert (p.offset * (most + 1) + left + 1) } q
                simp only [if_true, Visits.regroup] at round ⊢
                rw [round]
                rfl
            | false => exact onward ⟨v.seen.insert _, q :: v.found⟩ q

theorem exactRounds_regroup {body changed : Nat → Path → List Path}
    (regroups : ∀ k, Regroups change (body k) (changed k)) (n : Nat) (ps : List Path) :
    exactRounds changed n (ps.map (Path.regroup change)) = (exactRounds body n ps).map (Path.regroup change) := by
  induction n generalizing ps with
  | zero => rfl
  | succ n ih => rw [exactRounds, exactRounds, (regroups (n + 1)).flatMap, firsts_regroup, ih]

end Rounds

namespace Pattern

variable {change : ClosedGroups → ClosedGroups} {body changed : Path → List Path}

theorem found_regroup (v : Visits) :
    (v.regroup change).found.reverse = v.found.reverse.map (Path.regroup change) := by
  simp [Visits.regroup]

theorem atLeastOnce_regroup (regroups : Regroups change body changed) (greedy : Bool)
    (point : Option Address) :
    Regroups change (atLeastOnce body greedy point) (atLeastOnce changed greedy point) := by
  intro p
  have rounds := foldl_regroup (roundsFrom_regroup regroups greedy point (p.spot.rest.length + 1))
    ⟨.empty, []⟩ (body p)
  simp only [atLeastOnce, regroups p, Path.spot_regroup]
  rw [← firsts_regroup, ← found_regroup, ← rounds]
  rfl

theorem anyTimes_regroup (regroups : Regroups change body changed) (greedy : Bool)
    (point : Option Address) :
    Regroups change (anyTimes body greedy point) (anyTimes changed greedy point) := by
  intro p
  have rounds :=
    roundsFrom_regroup regroups greedy point (p.spot.rest.length + 1) ⟨.empty, []⟩ p
  simp only [anyTimes, Path.spot_regroup]
  rw [← found_regroup, ← rounds]
  rfl

theorem orNot_regroup (regroups : Regroups change body changed) (greedy : Bool)
    (point : Option Address) :
    Regroups change (orNot body greedy point) (orNot changed greedy point) := by
  intro p
  simp only [orNot, Path.pass?_regroup]
  cases p.pass? point with
  | none => rfl
  | some q =>
      simp only [Option.map_some, regroups q]
      rw [← firsts_regroup]
      cases greedy <;> simp

theorem runRepetition_regroup {body changed : Nat → Path → List Path}
    (regroups : ∀ k, Regroups change (body k) (changed k)) (consumes : Bool) (least : Nat)
    (most : Option Nat) (greedy : Bool) (place : Option Address) :
    Regroups change (runRepetition body consumes least most greedy place)
      (runRepetition changed consumes least most greedy place) := by
  have once := atLeastOnce_regroup (regroups 1) greedy (within 0 place)
  intro p
  cases most with
  | none =>
      cases least with
      | zero =>
          simp only [runRepetition]
          split
          · exact anyTimes_regroup (regroups 1) greedy (within 0 place) p
          · exact orNot_regroup once greedy place p
      | succ n =>
          have rounds := exactRounds_regroup (fun k => regroups (2 * k + 1)) n [p]
          rw [List.map_singleton] at rounds
          simp only [runRepetition]
          rw [rounds, once.flatMap, firsts_regroup]
  | some m =>
      have rounds := exactRounds_regroup (fun k => regroups (2 * (k + (m - least)) + 1)) least [p]
      rw [List.map_singleton] at rounds
      simp only [runRepetition]
      rw [rounds, ← firsts_regroup, List.flatMap_map, List.map_flatMap]
      congr 1
      apply List.flatMap_congr
      intro q _
      have extra := upToRounds_regroup (fun k => regroups (2 * k + 1))
        (fun k => within (2 * k) place) greedy (m - least) (m - least) ⟨.empty, []⟩ q
      rw [← found_regroup, ← extra]
      rfl

/-- A pattern whose groups are numbered from further on matches in the same ways from changed paths, if
the change regroups the groups that it closes. -/
theorem run_regroup {d : Nat}
    (closes : ∀ index extent gs, change ((index, extent) :: gs) = (index + d, extent) :: change gs)
    (place : Option Address) (p : Pattern) :
    Regroups change (p.run place) ((p.shift d).run place) := by
  -- Only a group adds to what is closed; everywhere else the change passes through.
  induction p generalizing place with
  | nothing => exact fun _ => rfl
  | literal chars =>
      intro p
      simp only [shift, run, Path.spot_regroup]
      cases p.spot.skip? chars <;> rfl
  | set chars ofBytes =>
      intro p
      simp only [shift, run, Path.spot_regroup]
      cases p.spot.next? with
      | none => rfl
      | some found =>
          simp only
          split <;> rfl
  | look kind =>
      intro p
      change (if kind.holds p.spot then [p.regroup change] else []) =
        (if kind.holds p.spot then [p] else []).map (Path.regroup change)
      split <;> rfl
  | group index name body ih =>
      intro p
      simp only [shift, run, ih (within 0 place) p, List.map_map, Path.spot_regroup]
      refine List.map_congr_left fun q _ => ?_
      simp only [Function.comp_apply, Path.regroup, Path.close, closes]
  | sequence first rest firstIh restIh =>
      intro p
      simp only [shift, run, firstIh (within 0 place) p]
      rw [(restIh (within 1 place)).flatMap, firsts_regroup]
  | choice first rest firstIh restIh =>
      intro p
      simp only [shift, run, Path.pass?_regroup]
      cases p.pass? place with
      | none => rfl
      | some q =>
          simp only [Option.map_some, firstIh (within 0 place) q, restIh (within 1 place) q]
          rw [← firsts_regroup, List.map_append]
  | repetition least most greedy body ih =>
      intro p
      simp only [shift, run, consumes_shift]
      split
      · have regroups (k : Nat) := ih (within k (some []))
        rw [runRepetition_regroup regroups false least most greedy (some []) p, List.map_map,
          List.map_map]
        rfl
      · have regroups (k : Nat) := ih (within k place)
        exact runRepetition_regroup regroups body.consumes least most greedy place p

theorem shift_zero (p : Pattern) : p.shift 0 = p := by
  induction p <;> simp [shift, *]

/-- Groups that were closed before stay where they are. -/
theorem run_append (place : Option Address) (pattern : Pattern) (p : Path) (gs : ClosedGroups) :
    pattern.run place (p.regroup (· ++ gs)) = (pattern.run place p).map (.regroup (· ++ gs)) := by
  have same : Regroups (· ++ gs) (pattern.run place) ((pattern.shift 0).run place) :=
    run_regroup (fun _ _ _ => rfl) place pattern
  rw [shift_zero] at same
  exact same p

end Pattern

end ModalLexer
