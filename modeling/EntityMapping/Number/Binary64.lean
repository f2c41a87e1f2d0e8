/-
Module: EntityMapping.Number.Binary64
Purpose: Finite double-precision numbers in exact form, and rounding of a quotient to the
  nearest of them. A number is a sign, a natural significand and a power of two, so every
  rounding and comparison below is exact arithmetic on naturals.
Main exports: Binary64, Binary64.ofRatio?, Binary64.ofNatural?, Binary64.times?, Binary64.over?
-/

namespace EntityMapping

/-- The pairs of significand and exponent that double precision can hold: 53 bits, the leading
bit set unless the exponent is already the least one. -/
def Binary64.Representable (significand : Nat) (exponent : Int) : Prop :=
  significand < Nat.pow 2 53 ∧ -1074 ≤ exponent ∧ exponent ≤ 971 ∧
    (Nat.pow 2 52 ≤ significand ∨ exponent = -1074)

instance (significand : Nat) (exponent : Int) :
    Decidable (Binary64.Representable significand exponent) := by
  unfold Binary64.Representable
  infer_instance

/-- The finite number `± significand * 2 ^ exponent`. Zero keeps its sign. -/
structure Binary64 where
  negative : Bool
  significand : Nat
  exponent : Int
  representable : Binary64.Representable significand exponent
deriving DecidableEq, Repr

/-- The quotient of two naturals to the nearest natural; a half goes to the even neighbour. -/
def roundHalfEven (num den : Nat) : Nat :=
  let below := num / den
  let doubled := 2 * (num % den)
  if doubled < den then below
  else if den < doubled then below + 1
  else if below % 2 = 0 then below
  else below + 1

namespace Binary64

/-- Zero with the given sign. -/
def zero (negative : Bool) : Binary64 :=
  { negative := negative, significand := 0, exponent := -1074, representable := by decide }

/-- The number with these parts, if double precision holds it. -/
def ofParts? (negative : Bool) (significand : Nat) (exponent : Int) : Option Binary64 :=
  if fits : Representable significand exponent then
    some { negative := negative, significand := significand, exponent := exponent,
           representable := fits }
  else none

/-- The exponent of the leading binary digit of `num / den`, for positive `num` and `den`. -/
def leadingBit (num den : Nat) : Int :=
  let guess : Int := (num.log2 : Int) - (den.log2 : Int)
  if num * Nat.pow 2 (-guess).toNat < den * Nat.pow 2 guess.toNat then guess - 1 else guess

/-- The number nearest to `± num / den`, a half going to the even significand. There is none
when the magnitude is past the largest finite number by half a unit or more. -/
def ofRatio? (negative : Bool) (num den : Nat) : Option Binary64 :=
  if num = 0 then some (zero negative)
  else
    let exponent := max (leadingBit num den - 52) (-1074)
    let rounded :=
      roundHalfEven (num * Nat.pow 2 (-exponent).toNat) (den * Nat.pow 2 exponent.toNat)
    if rounded = Nat.pow 2 53 then ofParts? negative (Nat.pow 2 52) (exponent + 1)
    else ofParts? negative rounded exponent

/-- The number nearest to `± n`. -/
def ofNatural? (negative : Bool) (n : Nat) : Option Binary64 :=
  ofRatio? negative n 1

/-- The numerator of the magnitude of `x`. -/
def num (x : Binary64) : Nat :=
  x.significand * Nat.pow 2 x.exponent.toNat

/-- The denominator of the magnitude of `x`. -/
def den (x : Binary64) : Nat :=
  Nat.pow 2 (-x.exponent).toNat

/-- The number nearest to the product. -/
def times? (x y : Binary64) : Option Binary64 :=
  ofRatio? (x.negative != y.negative) (x.num * y.num) (x.den * y.den)

/-- The number nearest to the quotient. There is none by zero. -/
def over? (x y : Binary64) : Option Binary64 :=
  if y.significand = 0 then none
  else ofRatio? (x.negative != y.negative) (x.num * y.den) (x.den * y.num)

end Binary64

end EntityMapping
