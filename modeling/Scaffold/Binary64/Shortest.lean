import Scaffold.Binary64.Basic

/-!
# The fewest digits that round back

Every real number closer to a binary64 number than to its neighbours rounds to
that number.  Among the decimals in this interval the ones with the fewest
digits are found grid by grid: on the grid of `n` digits only the two
neighbours of the value can be nearest, so they alone are tried.
-/

namespace Scaffold.Binary64

/-- Which of two equally near decimals is taken. -/
inductive Tie where
  /-- The one whose last digit is even. -/
  | toEven
  /-- The larger one. -/
  | upward
deriving DecidableEq, Repr

/-- The power of ten of the first digit of `significand * 2 ^ exponent`.  The
smallest number of the format is above `10 ^ (-330)`, so that many places
behind the point show it. -/
def leadingPower (significand : Nat) (exponent : Int) : Int :=
  let scaled :=
    significand * Nat.pow 10 330 * Nat.pow 2 exponent.toNat / Nat.pow 2 (-exponent).toNat
  ((Nat.toDigits 10 scaled).length : Int) - 331

/-- The multiple of `10 ^ power` that rounds to the number and is nearest to it,
if one does.  Values are compared in quarters of the number's last
place, where both ends of the interval are whole. -/
def onGrid? (tie : Tie) (x : Binary64) (power : Int) : Option Nat :=
  let lowest := x.significand == Nat.pow 2 52 && x.exponent > minExponent
  let low := 4 * x.significand - (if lowest then 1 else 2)
  let high := 4 * x.significand + 2
  let quarter : Int := x.exponent - 2
  -- A quarter measures `unit`, a step of the grid measures `step`.
  let unit := Nat.pow 2 quarter.toNat * Nat.pow 10 (-power).toNat
  let step := Nat.pow 10 power.toNat * Nat.pow 2 (-quarter).toNat
  let value := 4 * x.significand * unit
  let roundsBack (multiple : Nat) : Bool :=
    if x.significand % 2 == 0 then low * unit ≤ multiple * step && multiple * step ≤ high * unit
    else low * unit < multiple * step && multiple * step < high * unit
  let below := value / step
  let above := below + 1
  let toBelow := value - below * step
  let toAbove := above * step - value
  match roundsBack below, roundsBack above with
  | false, false => none
  | true, false => some below
  | false, true => some above
  | true, true =>
      if toBelow < toAbove then some below
      else if toAbove < toBelow then some above
      else match tie with
        | .upward => some above
        | .toEven => some (if below % 2 == 0 then below else above)

/-- The first grid, from `power` down, with a decimal that rounds back.  The
grid of 17 digits always has one. -/
def firstGrid (tie : Tie) (x : Binary64) : (digits : Nat) → (power : Int) → Nat × Int
  | 0, power => (0, power)
  | digits + 1, power =>
      match onGrid? tie x power with
      | some multiple => (multiple, power)
      | none => firstGrid tie x digits (power - 1)

/-- The decimal `multiple * 10 ^ power` with the fewest digits that rounds to
the magnitude of the number. -/
def shortest (tie : Tie) (x : Binary64) : Nat × Int :=
  firstGrid tie x 17 (leadingPower x.significand x.exponent)

end Scaffold.Binary64
