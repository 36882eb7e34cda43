import ModalLexer.Pattern.Basic
import ModalLexer.Text.Spot

/-! # Matching

`Pattern.run` lists the ways in which a pattern can match from a place, the preferred one first;
of the ways that end at one place only the first is kept.  A search (`Pattern.first?`) takes the
head of that list, and `first?_eq_head?` says that looking at no more of it than needed changes
nothing.

A repetition whose body may be empty could go round in place for ever.  So within such a
repetition a path remembers the branching points it has passed since it last consumed a
character, by their address in the pattern, and passes none of them twice. -/
set_option autoImplicit false
namespace ModalLexer

def isWordChar (unicode : Bool) (c : Char) : Bool :=
  if unicode then Unicode.isWord c else c.isAlphanum || c = '_'

namespace Look

def wordBefore (unicode : Bool) (s : Spot) : Bool := s.before?.any (isWordChar unicode)

def wordAfter (unicode : Bool) (s : Spot) : Bool := s.after?.any (isWordChar unicode)

/-- Whether a line starts here.  With `crlf`, none starts between a carriage return and the line
feed behind it. -/
def startsLine (crlf : Bool) (s : Spot) : Bool :=
  match s.before? with
  | none => true
  | some c => c = '\n' || (crlf && c = '\r' && s.after? != some '\n')

def endsLine (crlf : Bool) (s : Spot) : Bool :=
  match s.after? with
  | none => true
  | some c =>
      if crlf then c = '\r' || (c = '\n' && s.before? != some '\r') else c = '\n'

def holds (s : Spot) : Look → Bool
  | .textStart => s.past.isEmpty
  | .textEnd => s.rest.isEmpty
  | .lineStart crlf => startsLine crlf s
  | .lineEnd crlf => endsLine crlf s
  | .wordBoundary u => wordBefore u s != wordAfter u s
  | .wordInterior u => wordBefore u s == wordAfter u s
  | .wordStart u => !wordBefore u s && wordAfter u s
  | .wordEnd u => wordBefore u s && !wordAfter u s
  | .wordStartHalf u => !wordBefore u s
  | .wordEndHalf u => !wordAfter u s

end Look

structure Extent where
  start : Spot
  stop : Spot

namespace Extent

def text (e : Extent) : List Char := e.start.upTo e.stop

end Extent

/-- The way from the root of a pattern to a point in it, innermost step first. -/
abbrev Address := List Nat

/-- A partial match: the place reached, the last extent of each group, the latest first, and the
branching points passed since the last character. -/
structure Path where
  spot : Spot
  groups : List (Nat × Extent)
  passed : List Address

namespace Path

def start (s : Spot) : Path := ⟨s, [], []⟩

def offset (p : Path) : Nat := p.spot.offset

def group? (p : Path) (index : Nat) : Option Extent := p.groups.lookup index

def moveTo (p : Path) (s : Spot) : Path := { p with spot := s, passed := [] }

def close (index : Nat) (opened : Spot) (p : Path) : Path :=
  { p with groups := (index, ⟨opened, p.spot⟩) :: p.groups }

def forget (p : Path) : Path := { p with passed := [] }

/-- Passes a branching point, unless it was passed at this place already.  Outside repetitions
that may be empty points have no address and are passed freely. -/
def pass? (p : Path) : Option Address → Option Path
  | none => some p
  | some address =>
      if p.passed.contains address then none else some { p with passed := address :: p.passed }

end Path

structure BitSet where
  bits : Nat

namespace BitSet

def empty : BitSet := ⟨0⟩

def contains (s : BitSet) (n : Nat) : Bool := s.bits.testBit n

def insert (s : BitSet) (n : Nat) : BitSet := ⟨s.bits ||| (1 <<< n)⟩

end BitSet

/-- Keeps the first of the paths that end at one place. -/
def firstsFrom (seen : BitSet) : List Path → List Path
  | [] => []
  | p :: rest =>
      if seen.contains p.offset then firstsFrom seen rest
      else p :: firstsFrom (seen.insert p.offset) rest

def firsts : List Path → List Path
  | [] => []
  | [p] => [p]
  | ps => firstsFrom .empty ps

/-- The ways found through a repetition, the last one first, and what has been visited. -/
structure Visits where
  seen : BitSet
  found : List Path

/-- Goes round a repetition from the point behind its body as often as wanted, never twice from
one place.  `fuel` bounds the number of rounds. -/
def roundsFrom (body : Path → List Path) (greedy : Bool) (point : Option Address) :
    Nat → Visits → Path → Visits
  | 0, visits, _ => visits
  | fuel + 1, visits, p =>
      if visits.seen.contains p.offset then visits
      else
        match p.pass? point with
        | none => visits
        | some q =>
            let entered := { visits with seen := visits.seen.insert p.offset }
            if greedy then
              let round := (body q).foldl (roundsFrom body greedy point fuel) entered
              { round with found := q :: round.found }
            else
              (body q).foldl (roundsFrom body greedy point fuel)
                { entered with found := q :: entered.found }

/-- Goes on with up to `left` more rounds, each with a body and a branching point of its own. -/
def upToRounds (body : Nat → Path → List Path) (point : Nat → Option Address) (greedy : Bool)
    (most : Nat) : Nat → Visits → Path → Visits
  | 0, visits, p =>
      let key := p.offset * (most + 1)
      if visits.seen.contains key then visits
      else ⟨visits.seen.insert key, p :: visits.found⟩
  | left + 1, visits, p =>
      let key := p.offset * (most + 1) + left + 1
      if visits.seen.contains key then visits
      else
        match p.pass? (point (left + 1)) with
        | none => visits
        | some q =>
            let entered := { visits with seen := visits.seen.insert key }
            if greedy then
              let round :=
                (body (left + 1) q).foldl (upToRounds body point greedy most left) entered
              { round with found := q :: round.found }
            else
              (body (left + 1) q).foldl (upToRounds body point greedy most left)
                { entered with found := q :: entered.found }

def exactRounds (body : Nat → Path → List Path) : Nat → List Path → List Path
  | 0, ps => ps
  | n + 1, ps => exactRounds body n (firsts (ps.flatMap (body (n + 1))))

namespace Pattern

def within (step : Nat) : Option Address → Option Address
  | none => none
  | some address => some (step :: address)

def atLeastOnce (body : Path → List Path) (greedy : Bool) (point : Option Address) (p : Path) :
    List Path :=
  let fuel := p.spot.rest.length + 1
  firsts ((body p).foldl (roundsFrom body greedy point fuel) ⟨.empty, []⟩).found.reverse

def anyTimes (body : Path → List Path) (greedy : Bool) (point : Option Address) (p : Path) :
    List Path :=
  let fuel := p.spot.rest.length + 1
  (roundsFrom body greedy point fuel ⟨.empty, []⟩ p).found.reverse

def orNot (way : Path → List Path) (greedy : Bool) (point : Option Address) (p : Path) :
    List Path :=
  match p.pass? point with
  | none => []
  | some q => firsts (if greedy then way q ++ [q] else q :: way q)

/-- The ways through a repetition whose body, in each of its copies, is given.  Copies have odd
numbers and branching points even ones. -/
def runRepetition (body : Nat → Path → List Path) (consumes : Bool) (least : Nat)
    (most : Option Nat) (greedy : Bool) (place : Option Address) (p : Path) : List Path :=
  match most with
  | none =>
      match least with
      | 0 =>
          if consumes then anyTimes (body 1) greedy (within 0 place) p
          else orNot (atLeastOnce (body 1) greedy (within 0 place)) greedy place p
      | n + 1 =>
          firsts ((exactRounds (fun k => body (2 * k + 1)) n [p]).flatMap
            (atLeastOnce (body 1) greedy (within 0 place)))
  | some m =>
      let extra := m - least
      let first := exactRounds (fun k => body (2 * (k + extra) + 1)) least [p]
      firsts (first.flatMap fun q =>
        (upToRounds (fun k => body (2 * k + 1)) (fun k => within (2 * k) place) greedy extra extra
          ⟨.empty, []⟩ q).found.reverse)

/-- The ways to match from the end of a path, the preferred one first.  `place` is the address
of the pattern if it stands in a repetition that may go round in place. -/
def run (place : Option Address) : Pattern → Path → List Path
  | .nothing, p => [p]
  | .literal chars, p => ((p.spot.skip? chars).map p.moveTo).toList
  | .set chars _, p =>
      match p.spot.next? with
      | some (c, s) => if chars.contains c then [p.moveTo s] else []
      | none => []
  | .look kind, p => if kind.holds p.spot then [p] else []
  | .group index _ body, p => (body.run (within 0 place) p).map (.close index p.spot)
  | .sequence first rest, p =>
      firsts ((first.run (within 0 place) p).flatMap (rest.run (within 1 place)))
  | .choice first rest, p =>
      match p.pass? place with
      | none => []
      | some q => firsts (first.run (within 0 place) q ++ rest.run (within 1 place) q)
  | .repetition least most greedy body, p =>
      if place.isNone && most.isNone && !body.consumes then
        (runRepetition (fun k => body.run (within k (some []))) false least most greedy (some [])
          p).map .forget
      else
        runRepetition (fun k => body.run (within k place)) body.consumes least most greedy place p

def firstFrom? : Pattern → Path → Option Path
  | .choice first rest, p => (first.firstFrom? p).or (rest.firstFrom? p)
  | .group index _ body, p => (body.firstFrom? p).map (.close index p.spot)
  | pattern, p => (pattern.run none p).head?

def first? (pattern : Pattern) (s : Spot) : Option Path := pattern.firstFrom? (.start s)

end Pattern

theorem head?_firsts (ps : List Path) : (firsts ps).head? = ps.head? := by
  match ps with
  | [] => rfl
  | [_] => rfl
  | p :: q :: rest => simp [firsts, firstsFrom, BitSet.contains, BitSet.empty]

theorem Pattern.firstFrom?_eq_head? (pattern : Pattern) (p : Path) :
    pattern.firstFrom? p = (pattern.run none p).head? := by
  induction pattern generalizing p with
  | choice first rest first_ih rest_ih =>
      simp [firstFrom?, run, Path.pass?, head?_firsts, List.head?_append, first_ih, rest_ih, within]
  | group index name body ih => simp [firstFrom?, run, ih, within]
  | _ => rfl

theorem Pattern.first?_eq_head? (pattern : Pattern) (s : Spot) :
    pattern.first? s = (pattern.run none (.start s)).head? :=
  pattern.firstFrom?_eq_head? (.start s)

end ModalLexer
