import Scaffold.Binary64.Rounding

/-!
# The binary64 number that a decimal reads as

The digits of a decimal are rounded to a number first, and that number is
multiplied or divided by a power of ten.  Each of the two steps rounds, so the
result is near to the decimal but not always the nearest number: it is the
nearest one if the digits and the power are numbers of the format themselves.
-/

namespace Scaffold.Binary64

/-- The greatest power of ten that the format reaches. -/
def maxTenPower : Nat := 308

/-- The number nearest to `10 ^ power`, if the format reaches so far. -/
def tenPower? (power : Nat) : Option Binary64 :=
  if power ≤ maxTenPower then ofQuotient? false (Nat.pow 10 power) 1 else none

/-- The number multiplied by `10 ^ power`. -/
def scaleUp? (x : Binary64) (power : Nat) : Option Binary64 :=
  if x.isZero then some x
  else (tenPower? power).bind x.times?

/-- The number divided by `10 ^ power`.  A divisor that the format does not reach
is split, and nothing divides zero any further. -/
def scaleDown? (x : Binary64) (power : Nat) : Option Binary64 :=
  if x.isZero then some x
  else if power ≤ maxTenPower then (tenPower? power).bind x.dividedBy?
  else
    ((tenPower? maxTenPower).bind x.dividedBy?).bind fun quotient =>
      quotient.scaleDown? (power - maxTenPower)
termination_by power
decreasing_by
  simp only [maxTenPower] at *
  omega

/-- The number that `± digits * 10 ^ scale` reads as, if the format reaches so
far. -/
def ofDecimal? (negative : Bool) (digits : Nat) (scale : Int) : Option Binary64 :=
  (ofQuotient? negative digits 1).bind fun x =>
    if scale < 0 then x.scaleDown? (-scale).toNat else x.scaleUp? scale.toNat

-- One rounding, two roundings (the nearest number is the one before `10 ^ 15`), and both limits.
example : ofDecimal? false 25 (-2) = some ⟨false, 2 ^ 52, -54⟩ := by decide +kernel
example : ofDecimal? false 9999999999999999 (-1) = ofDecimal? false 1 15 := by decide +kernel
example : ofDecimal? true 1 (-400) = some (zero true) := by decide +kernel
example : ofDecimal? false 1 309 = none := by decide +kernel

end Scaffold.Binary64
