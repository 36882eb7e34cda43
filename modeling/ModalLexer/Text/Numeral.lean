/-! # Integers written in a base -/
set_option autoImplicit false
namespace ModalLexer

/-- The value of a digit, with the letters of either case for ten and up. -/
def digitValue? (base : Nat) (c : Char) : Option Nat :=
  let value? :=
    if '0' ≤ c ∧ c ≤ '9' then some (c.toNat - '0'.toNat)
    else if 'a' ≤ c ∧ c ≤ 'z' then some (c.toNat - 'a'.toNat + 10)
    else if 'A' ≤ c ∧ c ≤ 'Z' then some (c.toNat - 'A'.toNat + 10)
    else none
  value?.filter (· < base)

def natOfDigits? (base : Nat) (cs : List Char) : Option Nat :=
  match cs with
  | [] => none
  | _ => (cs.mapM (digitValue? base)).map fun digits => digits.foldl (fun n d => n * base + d) 0

def intOfText? (base : Nat) (cs : List Char) : Option Int :=
  match cs with
  | '-' :: digits => (natOfDigits? base digits).map fun n => -(n : Int)
  | '+' :: digits => (natOfDigits? base digits).map fun n => (n : Int)
  | digits => (natOfDigits? base digits).map fun n => (n : Int)

def fitsWord (n : Int) : Bool := -0x8000000000000000 ≤ n && n < 0x8000000000000000

/-- A signed integer of 64 bits written with an optional sign. -/
def wordOfText? (base : Nat) (cs : List Char) : Option Int := (intOfText? base cs).filter fitsWord

end ModalLexer
