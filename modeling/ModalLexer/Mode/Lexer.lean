import ModalLexer.Mode.Compiled

/-! # Lexers

A lexer is a table of compiled modes; scanning begins in the first.  It owns the names of the
rules that can show up as kinds of tokens. -/
set_option autoImplicit false
namespace ModalLexer

structure Mode (σ : Type) where
  name : String
  rules : List (Rule σ)

structure Lexer (σ : Type) where
  modes : List (CompiledMode σ)
  owned : List String

namespace Lexer

variable {σ : Type}

def repeatedName? (seen : List String) : List (Mode σ) → Option String
  | [] => none
  | mode :: rest =>
      if seen.contains mode.name then some mode.name else repeatedName? (mode.name :: seen) rest

def modeNumber? (modes : List (Mode σ)) (name : String) : Option Nat :=
  modes.findIdx? (·.name = name)

def compileEach (resolve : String → Option Nat) (modes : List (Mode σ))
    (engine : Engine := Pattern.read?) : Except ConfigError (List (CompiledMode σ)) :=
  match modes with
  | [] => .ok []
  | mode :: rest => do
      let first ← CompiledMode.compile mode.name mode.rules resolve engine
      let more ← compileEach resolve rest engine
      return first :: more

/-- Compiles modes to a lexer, which owns the rules that no mode discards. -/
def ofModes (modes : List (Mode σ)) (engine : Engine := Pattern.read?) :
    Except ConfigError (Lexer σ) :=
  if modes.isEmpty then .error .noModes
  else
    match repeatedName? [] modes with
    | some name => .error (.duplicateMode name)
    | none => do
        let compiled ← compileEach (modeNumber? modes) modes engine
        let kept := (modes.flatMap (·.rules)).filter fun rule => !rule.options.discard
        return ⟨compiled, kept.map (·.name)⟩

def main : String := "main"

/-- Compiles rules to a lexer of one mode, which owns all of them.  They know no modes. -/
def ofRules (rules : List (Rule σ)) (engine : Engine := Pattern.read?) :
    Except ConfigError (Lexer σ) := do
  let mode ← CompiledMode.compile main rules (fun _ => none) engine
  return ⟨[mode], rules.map (·.name)⟩

def has (l : Lexer σ) (kind : String) : Bool := l.owned.contains kind

def modeNames (l : Lexer σ) : List String := l.modes.map (·.name)

def modeName (l : Lexer σ) (number : Nat) : String :=
  match l.modes[number]? with
  | some mode => mode.name
  | none => ""

end Lexer

end ModalLexer
