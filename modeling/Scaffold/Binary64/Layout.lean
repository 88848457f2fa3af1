import Scaffold.Binary64.Shortest
import Scaffold.Text.Digits

/-!
# The text of a binary64 number

A layout fixes how the shortest digits of a number are set: which exponents
are written positionally, whether a whole number keeps a fraction, and which
of two equally short texts is taken.
-/

namespace Scaffold.Binary64

/-- The decisions that a format makes about the text of a number. -/
structure Layout where
  /-- Whether a number whose first digit stands at this power of ten is
  written positionally, without an exponent. -/
  positional : Int → Bool
  /-- Whether a whole number written positionally ends in `.0`. -/
  keepsFraction : Bool
  /-- Which of two equally near decimals is written. -/
  tie : Tie

namespace Layout

/-- Digits set positionally, the first one at the power of ten `leading`. -/
def place (layout : Layout) (digits : List Char) (leading : Int) : List Char :=
  if leading < 0 then
    ['0', '.'] ++ List.replicate (-leading - 1).toNat '0' ++ digits
  else
    let whole := leading.toNat + 1
    if digits.length ≤ whole then
      digits ++ List.replicate (whole - digits.length) '0' ++
        (if layout.keepsFraction then ['.', '0'] else [])
    else
      digits.take whole ++ ['.'] ++ digits.drop whole

/-- Digits set with a signed exponent, one of them before the point. -/
def withExponent (digits : List Char) (leading : Int) : List Char :=
  let fraction := if digits.length ≤ 1 then [] else '.' :: digits.drop 1
  let sign := if leading < 0 then '-' else '+'
  digits.take 1 ++ fraction ++ ['e', sign] ++ Text.decimal leading.natAbs

/-- The text of a number. -/
def write (layout : Layout) (x : Binary64) : List Char :=
  let sign := if x.negative then ['-'] else []
  if x.isZero then
    sign ++ layout.place ['0'] 0
  else
    let (multiple, power) := shortest layout.tie x
    let written := Text.decimal multiple
    let leading := power + written.length - 1
    let digits := (written.reverse.dropWhile (· == '0')).reverse
    sign ++ (if layout.positional leading then layout.place digits leading
      else withExponent digits leading)

end Layout

end Scaffold.Binary64
