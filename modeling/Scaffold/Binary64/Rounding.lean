import Scaffold.Binary64.Basic

/-!
# The binary64 number nearest to a quotient

A quotient is rounded to the nearest number of the format, and one halfway
between two of them to the one with the even significand.  Quotients too large
for the format have no nearest number; the smallest ones round to zero.
Products and quotients of numbers are rounded in the same way.
-/

namespace Scaffold.Binary64

/-- The quotient rounded to the nearest natural number, halves to even. -/
def roundQuotient (numerator denominator : Nat) : Nat :=
  let quotient := numerator / denominator
  let remainder := numerator % denominator
  if 2 * remainder > denominator || (2 * remainder == denominator && quotient % 2 == 1) then
    quotient + 1
  else
    quotient

/-- The exponent at which `numerator / denominator` has a significand of 53
bits, or the least exponent of the format if that is larger. -/
def exponentOf (numerator denominator : Nat) : Int :=
  let guess : Int := (numerator.log2 : Int) - denominator.log2 - 53
  let exact :=
    numerator * Nat.pow 2 (-(guess + 53)).toNat < denominator * Nat.pow 2 (guess + 53).toNat
  max minExponent (if exact then guess else guess + 1)

/-- The number nearest to `± numerator / denominator`, if the format reaches so
far. -/
def ofQuotient? (negative : Bool) (numerator denominator : Nat) : Option Binary64 :=
  if numerator = 0 then some (zero negative)
  else
    let exponent := exponentOf numerator denominator
    let significand :=
      roundQuotient (numerator * Nat.pow 2 (-exponent).toNat)
        (denominator * Nat.pow 2 exponent.toNat)
    let (significand, exponent) :=
      if significand = Nat.pow 2 53 then (Nat.pow 2 52, exponent + 1) else (significand, exponent)
    if exponent > maxExponent then none else some ⟨negative, significand, exponent⟩

/-- The product of two numbers, if the format reaches so far. -/
def times? (x y : Binary64) : Option Binary64 :=
  let exponent := x.exponent + y.exponent
  ofQuotient? (x.negative != y.negative)
    (x.significand * y.significand * Nat.pow 2 exponent.toNat) (Nat.pow 2 (-exponent).toNat)

/-- The quotient of a number and one that is not zero, if the format reaches so
far. -/
def dividedBy? (x y : Binary64) : Option Binary64 :=
  let exponent := x.exponent - y.exponent
  ofQuotient? (x.negative != y.negative)
    (x.significand * Nat.pow 2 exponent.toNat) (y.significand * Nat.pow 2 (-exponent).toNat)

-- A half goes to the even significand, and the least number has no half.
example : ofQuotient? false (2 ^ 53 + 1) 1 = some ⟨false, 2 ^ 52, 1⟩ := by decide +kernel
example : ofQuotient? false (2 ^ 53 + 3) 1 = some ⟨false, 2 ^ 52 + 2, 1⟩ := by decide +kernel
example : ofQuotient? true 1 (2 ^ 1075) = some (zero true) := by decide +kernel

end Scaffold.Binary64
