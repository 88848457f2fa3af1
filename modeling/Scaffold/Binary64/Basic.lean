/-!
# Numbers in binary64

A finite binary64 number is a sign, a significand below `2 ^ 53` and a power
of two.  The library only stores, compares and writes such numbers, so this
file holds the data and the fields of the format; arithmetic is exact and on
natural numbers throughout.
-/

namespace Scaffold

/-- The finite number `± significand * 2 ^ exponent`. -/
structure Binary64 where
  negative : Bool
  significand : Nat
  exponent : Int
deriving DecidableEq, Repr

namespace Binary64

/-- The least exponent of the format. -/
def minExponent : Int := -1074

/-- The greatest exponent of the format. -/
def maxExponent : Int := 971

/-- A zero of either sign. -/
def zero (negative : Bool) : Binary64 :=
  ⟨negative, 0, minExponent⟩

/-- Whether the number is a zero, of either sign. -/
def isZero (x : Binary64) : Bool :=
  x.significand == 0

end Binary64

end Scaffold
