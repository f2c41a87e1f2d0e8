/-
Module: EntityMapping.Number.Integer
Purpose: Integers in decimal.
Main exports: integerText
-/

namespace EntityMapping

/-- The digits of an integer without leading zeros, after a minus sign if it is negative. -/
def integerText (n : Int) : String :=
  if n < 0 then "-" ++ Nat.repr n.natAbs else Nat.repr n.natAbs

example : integerText (-12) = "-12" := by decide
example : integerText 0 = "0" := by decide

end EntityMapping
