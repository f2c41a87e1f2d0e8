/-
Module: EntityMapping.Number.Shortest
Purpose: The decimal with the fewest digits that reads back as a given double, and the two ways
  in which this library writes it. The search tries grids of one, two, ... digits and tests the
  two neighbours of the number on each, in exact arithmetic.
Main exports: Decimal, Binary64.shortest, Binary64.plainText, Binary64.shortText
-/
import EntityMapping.Number.Binary64

namespace EntityMapping

/-- The decimal `digits * 10 ^ power`. -/
structure Decimal where
  digits : Nat
  power : Int
deriving DecidableEq, Repr

/-- Which of two equally near decimals of the same length is taken. -/
inductive Tie where
  | even
  | up
deriving DecidableEq, Repr

namespace Decimal

/-- Compare the decimal with `n * 2 ^ q`, exactly. -/
def compareBinary (d : Decimal) (n : Nat) (q : Int) : Ordering :=
  compare (d.digits * Nat.pow 10 d.power.toNat * Nat.pow 2 (-q).toNat)
    (n * Nat.pow 2 q.toNat * Nat.pow 10 (-d.power).toNat)

/-- The same decimal without trailing zeros among its digits. -/
def trim (d : Decimal) : Decimal :=
  if _h : d.digits ≠ 0 ∧ d.digits % 10 = 0 then
    trim { digits := d.digits / 10, power := d.power + 1 }
  else d
termination_by d.digits
decreasing_by omega

/-- The digits in positional notation: no exponent, and a point only before digits other than
zero. -/
def plainText (d : Decimal) : String :=
  if 0 ≤ d.power then Nat.repr (d.digits * Nat.pow 10 d.power.toNat)
  else
    let places := (-d.power).toNat
    let fraction := Nat.toDigits 10 (d.digits % Nat.pow 10 places)
    Nat.repr (d.digits / Nat.pow 10 places) ++ "." ++
      String.ofList (List.replicate (places - fraction.length) '0' ++ fraction)

/-- The exponent of the leading digit. -/
def leadingDigit (d : Decimal) : Int :=
  ((Nat.toDigits 10 d.digits).length : Int) - 1 + d.power

/-- One digit before the point and a signed exponent, as in `1.5e-7` and `1e+30`. -/
def scientificText (d : Decimal) : String :=
  let exponent := d.leadingDigit
  let mark := if exponent < 0 then "e-" else "e+"
  let tail := mark ++ Nat.repr exponent.natAbs
  match Nat.toDigits 10 d.digits with
  | [] => tail
  | [digit] => String.singleton digit ++ tail
  | digit :: more => String.singleton digit ++ "." ++ String.ofList more ++ tail

end Decimal

namespace Binary64

/-- Whether the decimal lies among the reals that round to the magnitude of `x`. The interval
reaches half way to both neighbours; below a power of two the neighbour is nearer. Its ends
belong to it when the significand is even. -/
def admits (x : Binary64) (d : Decimal) : Bool :=
  let narrow := x.significand = Nat.pow 2 52 ∧ x.exponent ≠ -1074
  let low := if narrow then 4 * x.significand - 1 else 4 * x.significand - 2
  let high := 4 * x.significand + 2
  let closed := x.significand % 2 == 0
  let fromLow := d.compareBinary low (x.exponent - 2)
  let toHigh := d.compareBinary high (x.exponent - 2)
  (fromLow == .gt || (closed && fromLow == .eq)) && (toHigh == .lt || (closed && toHigh == .eq))

/-- The least `k` such that the magnitude of `x` is below `10 ^ k`, for `x` other than zero. -/
def decimalLength (x : Binary64) : Int :=
  let guess := (((x.significand.log2 : Int) + x.exponent) * 30103) / 100000 + 1
  let reaches (k : Int) : Bool :=
    ({ digits := 1, power := k } : Decimal).compareBinary x.significand x.exponent != .gt
  if reaches guess then guess + 1
  else if reaches (guess - 1) then guess
  else guess - 1

/-- The best decimal on the grid of multiples of `10 ^ power`, if one of the two neighbours of
`x` there reads back as `x`. -/
def onGrid (tie : Tie) (x : Binary64) (power : Int) : Option Decimal :=
  let num := x.significand * Nat.pow 2 x.exponent.toNat * Nat.pow 10 (-power).toNat
  let den := Nat.pow 2 (-x.exponent).toNat * Nat.pow 10 power.toNat
  let lower : Decimal := { digits := num / den, power := power }
  let upper : Decimal := { digits := num / den + 1, power := power }
  match x.admits lower, x.admits upper with
  | true, false => some lower
  | false, true => some upper
  | false, false => none
  | true, true =>
      match compare (2 * (num % den)) den with
      | .lt => some lower
      | .gt => some upper
      | .eq => if tie = .even ∧ lower.digits % 2 = 0 then some lower else some upper

/-- The magnitude of `x` in full. -/
def exactDecimal (x : Binary64) : Decimal :=
  { digits := x.significand * Nat.pow 2 x.exponent.toNat * Nat.pow 5 (-x.exponent).toNat
    power := min x.exponent 0 }

/-- The decimal with the fewest digits that rounds to the magnitude of `x`, the nearest one of
that length. -/
def shortest (tie : Tie) (x : Binary64) : Decimal :=
  if x.significand = 0 then { digits := 0, power := 0 }
  else
    let length := x.decimalLength
    let found := (List.range 17).findSome? fun (n : Nat) => x.onGrid tie (length - 1 - n)
    (found.getD x.exactDecimal).trim

/-- The sign that `x` is written with; zero shows its sign too. -/
def signText (x : Binary64) : String :=
  if x.negative then "-" else ""

/-- The text of a number literal: shortest digits, never an exponent, whole numbers without a
point, and of two equally near decimals the larger. -/
def plainText (x : Binary64) : String :=
  x.signText ++ (x.shortest .up).plainText

/-- The text of a number in a message: shortest digits, always with a point or an exponent, and
of two equally near decimals the even one. The exponent appears from `1e+16` on and below
`1e-5`. -/
def shortText (x : Binary64) : String :=
  let d := x.shortest .even
  let body :=
    if d.digits = 0 then "0.0"
    else if -5 ≤ d.leadingDigit ∧ d.leadingDigit < 16 then
      if 0 ≤ d.power then d.plainText ++ ".0" else d.plainText
    else d.scientificText
  x.signText ++ body

end Binary64

end EntityMapping
