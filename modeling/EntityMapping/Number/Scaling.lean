/-
Module: EntityMapping.Number.Scaling
Purpose: Doubles from decimal digits and a power of ten, by double-precision arithmetic. As many
  leading digits are kept as 64 bits hold. They, the power of ten and their product or quotient
  are rounded one after the other, so the result is near the decimal but not always nearest.
Main exports: Mantissa, Mantissa.ofDigits, Binary64.ofScaled?
-/
import EntityMapping.Number.Binary64

namespace EntityMapping

/-! ### Digits -/

/-- The number `significand * 10 ^ power`, all that is kept of a run of digits. -/
structure Mantissa where
  significand : Nat
  power : Int
deriving DecidableEq, Repr

namespace Mantissa

/-- No digits yet. -/
def zero : Mantissa :=
  { significand := 0, power := 0 }

/-- The significand with one more digit, if it still fits 64 bits. -/
def extended? (m : Mantissa) (digit : Nat) : Option Nat :=
  let longer := 10 * m.significand + digit
  if longer < UInt64.size then some longer else none

/-- Takes in digits before the point. From the first one that does not fit on, a digit only
counts as a power of ten. -/
def takeWhole (m : Mantissa) : List Nat → Mantissa
  | [] => m
  | digit :: rest =>
      match m.extended? digit with
      | some longer => takeWhole { m with significand := longer } rest
      | none => { m with power := m.power + rest.length + 1 }

/-- Takes in digits after the point. From the first one that does not fit on, they are dropped. -/
def takeFraction (m : Mantissa) : List Nat → Mantissa
  | [] => m
  | digit :: rest =>
      match m.extended? digit with
      | some longer => takeFraction { significand := longer, power := m.power - 1 } rest
      | none => m

/-- What is kept of the digits before and after a point. -/
def ofDigits (whole fraction : List Nat) : Mantissa :=
  (zero.takeWhole whole).takeFraction fraction

example : ofDigits [1, 2] [5] = { significand := 125, power := -1 } := by decide

end Mantissa

/-! ### Powers of ten -/

namespace Binary64

/-- The exponent of the largest power of ten that double precision holds. -/
def maxPower : Nat := 308

/-- The number nearest to `10 ^ power`. -/
def powerOfTen? (power : Nat) : Option Binary64 :=
  ofNatural? false (Nat.pow 10 power)

/-- Divides by the largest power of ten `steps` times, as long as anything is left, and then by
`10 ^ power`. -/
def shrink? (power : Nat) : Nat → Binary64 → Option Binary64
  | 0, x => (powerOfTen? power).bind x.over?
  | steps + 1, x =>
      if x.significand = 0 then some x
      else ((powerOfTen? maxPower).bind x.over?).bind (shrink? power steps)

/-- The number `x * 10 ^ power`, rounded on the way. There is none past the largest finite
number. -/
def scale? (x : Binary64) : Int → Option Binary64
  | .ofNat power =>
      if power ≤ maxPower then (powerOfTen? power).bind x.times?
      else if x.significand = 0 then some x
      else none
  | .negSucc power => x.shrink? (power % maxPower + 1) (power / maxPower)

/-- The number `± significand * 10 ^ power`, rounded on the way. There is none past the largest
finite number. -/
def ofScaled? (negative : Bool) (significand : Nat) (power : Int) : Option Binary64 :=
  (ofNatural? negative significand).bind (·.scale? power)

/-- The number `9007199254740993` is written with one more digit here, which rounds upwards before
the division; by itself it would go to the even neighbour below. -/
example : (ofScaled? false 90071992547409930 (-1)).map num = some 9007199254740994 := by
  decide +kernel

end Binary64

end EntityMapping
