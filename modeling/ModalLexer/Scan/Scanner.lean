import ModalLexer.Mode.Lexer
import ModalLexer.Scan.Token

/-! # Scanners

A scanner goes over a text with a lexer.  One `turn` is one match: it says what happened and what
has become of the scanner, and calls no value function.  `next` takes turns until a token comes
out, scanning ends or fails; it makes the values, whose functions share a state.

Every turn that consumes a match lowers `measure`, so `next` needs no more turns than that. -/
set_option autoImplicit false
namespace ModalLexer

/-- The state of a scan: the place in the text and its location, the numbers of the suspended
modes, the innermost first, and of the active one, whether scanning has ended, and the offset
of the last match if that was empty. -/
structure Scanner where
  spot : Spot
  location : Location
  stack : List Nat
  active : Nat
  done : Bool
  stalled : Option Nat

/-- A match of a rule that the scanner found, with where it was looked for. -/
structure Firing (σ : Type) where
  dispatch : Dispatch σ
  path : Path
  offset : Nat
  location : Location

inductive Turn (σ : Type)
  | ended
  | stuck (firing : Firing σ)
  | unbalanced (firing : Firing σ)
  | consumed (firing : Firing σ)

namespace Firing

variable {σ : Type}

def entry (f : Firing σ) : Entry σ := f.dispatch.entry

def chars (f : Firing σ) : List Char := f.dispatch.extent.text

def advance (f : Firing σ) : Location × Nat := f.location.advance f.chars f.entry.lineBreaks

/-- The value of the match and the state behind it.  A discarded match has none. -/
def value (f : Firing σ) (state : σ) : Value × σ :=
  if f.entry.discard then (.nothing, state)
  else
    match f.entry.value with
    | none => (.text (.ofList f.chars), state)
    | some fn => fn (.ofList f.chars) (f.dispatch.slot.groups f.path) state

def token (f : Firing σ) (value : Value) : Token where
  kind := f.entry.kind
  text := .ofList f.chars
  value := value
  line := f.location.line
  col := f.location.col
  offset := f.offset
  lineBreaks := f.advance.2
  isError := f.entry.error
  variant := f.dispatch.variant

end Firing

namespace Scanner

variable {σ : Type}

def start (text : List Char) : Scanner := ⟨.start text, .start, [], 0, false, none⟩

def offset (s : Scanner) : Nat := s.spot.offset

def text (s : Scanner) : List Char := s.spot.text

def depth (s : Scanner) : Nat := s.stack.length

/-- Whether tokens of a kind can come out of the scanner: it asks its lexer, in whatever mode. -/
def has (l : Lexer σ) (_ : Scanner) (kind : String) : Bool := l.has kind

def save (s : Scanner) : Checkpoint := .ofLocation s.location s.offset

/-- Turns to a text, at a checkpoint of it or at its start; modes stay as they are.  A bad
checkpoint only ends the scan. -/
def reset (s : Scanner) (text : List Char) (checkpoint : Option Checkpoint) :
    Except ScanError Unit × Scanner :=
  let checkpoint := checkpoint.getD .start
  match checkpoint.spot text with
  | .error e => (.error e, { s with done := true })
  | .ok spot =>
      (.ok (), { s with spot, location := checkpoint.location, done := false, stalled := none })

def firing? (l : Lexer σ) (s : Scanner) : Option (Firing σ) :=
  match l.modes[s.active]? with
  | none => none
  | some mode =>
      match mode.pattern.first? s.spot with
      | none => none
      | some path =>
          (CompiledMode.dispatch? path mode.entries).map fun dispatch =>
            ⟨dispatch, path, s.offset, s.location⟩

/-- Whether a match may not be consumed: it is empty, and it changes no mode or follows another
empty match in the same place. -/
def isStuck (s : Scanner) (f : Firing σ) : Bool :=
  f.chars.isEmpty && (!f.entry.transitions || s.stalled = some s.offset)

def moveBehind (s : Scanner) (f : Firing σ) : Scanner :=
  { s with
    spot := f.dispatch.extent.stop
    location := f.advance.1
    stalled := if f.chars.isEmpty then some s.offset else none }

/-- Changes the active mode, unless a mode is to be resumed and none is suspended. -/
def jump? (s : Scanner) : Jump → Option Scanner
  | .stay => some s
  | .switchTo mode => some { s with active := mode }
  | .push mode => some { s with active := mode, stack := s.active :: s.stack }
  | .pop =>
      match s.stack with
      | [] => none
      | mode :: rest => some { s with active := mode, stack := rest }

def turn (l : Lexer σ) (s : Scanner) : Turn σ × Scanner :=
  if s.done then (.ended, s)
  else if s.spot.atEnd then (.ended, { s with done := true })
  else
    match s.firing? l with
    | none => (.ended, { s with done := true })
    | some f =>
        if s.isStuck f then (.stuck f, { s with done := true })
        else
          match (s.moveBehind f).jump? f.entry.jump with
          | none => (.unbalanced f, { s.moveBehind f with done := true })
          | some t => (.consumed f, { t with done := f.entry.error })

/-- A bound on the number of matches to come. -/
def measure (s : Scanner) : Nat :=
  2 * s.spot.rest.length + if s.stalled = some s.offset then 0 else 1

abbrev Item := Except ScanError (Option Token)

def nextWithin (l : Lexer σ) : Nat → Scanner → σ → Item × Scanner × σ
  | 0, s, state => (.ok none, s, state)
  | fuel + 1, s, state =>
      match s.turn l with
      | (.ended, t) => (.ok none, t, state)
      | (.stuck f, t) =>
          (.error (.emptyMatch f.entry.kind f.location.line f.location.col), t, state)
      | (.unbalanced f, t) =>
          (.error (.popOnEmptyStack f.entry.kind f.location.line f.location.col), t,
            (f.value state).2)
      | (.consumed f, t) =>
          let (value, after) := f.value state
          if f.entry.discard then nextWithin l fuel t after
          else (.ok (some (f.token value)), t, after)

def next (l : Lexer σ) (s : Scanner) (state : σ) : Item × Scanner × σ :=
  nextWithin l (s.measure + 1) s state

def drain (l : Lexer σ) : Nat → Scanner → σ → List (Except ScanError Token) × Scanner × σ
  | 0, s, state => ([], s, state)
  | limit + 1, s, state =>
      match s.next l state with
      | (.ok none, t, after) => ([], t, after)
      | (.ok (some token), t, after) =>
          let (items, last) := drain l limit t after
          (.ok token :: items, last)
      | (.error e, t, after) =>
          let (items, last) := drain l limit t after
          (.error e :: items, last)

end Scanner

end ModalLexer
