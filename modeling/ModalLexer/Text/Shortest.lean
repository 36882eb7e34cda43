/-! # The shortest decimal of a number in floating point

A finite number in floating point of 64 bits is `m * 2^q`.  Every real number nearer to it than to
its neighbours reads back as it, and so do the two in the middle if `m` is even.  `shortest`
searches this interval for the decimal with the fewest digits and, of those, the nearest. -/
set_option autoImplicit false
namespace ModalLexer

structure Decimal where
  digits : Nat
  exponent : Int
deriving DecidableEq

inductive FloatParts
  | zero (negative : Bool)
  | finite (negative : Bool) (m : Nat) (q : Int) (tight : Bool)
  | infinite
  | notANumber

namespace FloatParts

/-- Takes 64 bits apart.  `tight` marks the powers of two, whose lower neighbour is nearer than the
upper one. -/
def ofBits (bits : UInt64) : FloatParts :=
  let n : Nat := bits.toNat
  let negative := n.testBit 63
  let exponent : Nat := n / Nat.pow 2 52 % Nat.pow 2 11
  let fraction : Nat := n % Nat.pow 2 52
  if exponent = 2047 then (if fraction = 0 then .infinite else .notANumber)
  else if exponent = 0 then
    (if fraction = 0 then .zero negative else .finite negative fraction (-1074) false)
  else
    .finite negative (Nat.pow 2 52 + fraction) ((exponent : Int) - 1075)
      (fraction = 0 && 1 < exponent)

end FloatParts

structure Ratio where
  num : Nat
  den : Nat

namespace Ratio

/-- The power of ten of the first digit; `fuel` bounds how far below one it is looked for. -/
def magnitudeBelowOne (r : Ratio) : Nat → Nat → Int
  | 0, j => -(j : Int)
  | fuel + 1, j =>
      if r.den ≤ r.num * Nat.pow 10 j then -(j : Int) else magnitudeBelowOne r fuel (j + 1)

def magnitude (r : Ratio) : Int :=
  if r.den ≤ r.num then (Nat.toDigits 10 (r.num / r.den)).length - 1
  else r.magnitudeBelowOne 400 1

def inUnits (r : Ratio) (k : Int) : Ratio :=
  if 0 ≤ k then ⟨r.num, r.den * Nat.pow 10 k.toNat⟩ else ⟨r.num * Nat.pow 10 (-k).toNat, r.den⟩

end Ratio

/-- The numbers that read back as one number: a quarter of its last bit is the unit of `value`,
`low` and `high`. -/
structure Readback where
  low : Nat
  value : Nat
  high : Nat
  closed : Bool
  unit : Int

namespace Readback

def ratio (r : Readback) (n : Nat) : Ratio :=
  if 0 ≤ r.unit then ⟨n * Nat.pow 2 r.unit.toNat, 1⟩ else ⟨n, Nat.pow 2 (-r.unit).toNat⟩

def holds (r : Readback) (d : Decimal) : Bool :=
  let low := (r.ratio r.low).inUnits d.exponent
  let high := (r.ratio r.high).inUnits d.exponent
  let low' := d.digits * low.den
  let high' := d.digits * high.den
  if r.closed then low.num ≤ low' && high' ≤ high.num else low.num < low' && high' < high.num

/-- The decimal of at most `n` digits that reads back, if there is one; of two the nearer, and of
two equally near the even one. -/
def withDigits? (r : Readback) (magnitude : Int) (n : Nat) : Option Decimal :=
  let k := magnitude - n + 1
  let v := (r.ratio r.value).inUnits k
  let below : Decimal := ⟨v.num / v.den, k⟩
  let above : Decimal := ⟨v.num / v.den + 1, k⟩
  let twice := 2 * (v.num % v.den)
  match r.holds below, r.holds above with
  | true, true =>
      if twice < v.den then some below
      else if v.den < twice then some above
      else some (if below.digits % 2 = 0 then below else above)
  | true, false => some below
  | false, true => some above
  | false, false => none

end Readback

def dropZeros : Nat → Decimal → Decimal
  | 0, d => d
  | fuel + 1, d =>
      if d.digits ≠ 0 ∧ d.digits % 10 = 0 then dropZeros fuel ⟨d.digits / 10, d.exponent + 1⟩ else d

/-- The shortest decimal that reads back as `m * 2^q`; seventeen digits always suffice. -/
def shortest (m : Nat) (q : Int) (tight : Bool) : Decimal :=
  let r : Readback := ⟨4 * m - (if tight then 1 else 2), 4 * m, 4 * m + 2, m % 2 = 0, q - 2⟩
  let magnitude := (r.ratio r.value).magnitude
  match (List.range 17).findSome? fun n => r.withDigits? magnitude (n + 1) with
  | some d => dropZeros 17 d
  | none => ⟨m, q⟩

end ModalLexer
