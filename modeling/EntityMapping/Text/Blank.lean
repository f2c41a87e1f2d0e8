/-
Module: EntityMapping.Text.Blank
Purpose: The characters of the Unicode property White_Space.
Main exports: isBlank
-/

namespace EntityMapping.Text

/-- Closed ranges of code points, ascending and apart; 25 characters in all. -/
def blankRanges : List (Nat × Nat) :=
  [(0x9, 0xD), (0x20, 0x20), (0x85, 0x85), (0xA0, 0xA0), (0x1680, 0x1680), (0x2000, 0x200A),
   (0x2028, 0x2029), (0x202F, 0x202F), (0x205F, 0x205F), (0x3000, 0x3000)]

/-- Whether a character is white space in any script. -/
def isBlank (c : Char) : Bool :=
  blankRanges.any fun (first, last) => first ≤ c.toNat && c.toNat ≤ last

end EntityMapping.Text
