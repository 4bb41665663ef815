import Claw.Binary.Format
import Claw.Numeral.Real

/-!
# Rounding to nearest

Every magnitude that is rounded is a quotient of natural numbers, and its rounding is the rank of
the nearest magnitude of the format, with ties going to the even rank.

* `halfEven`: the natural number nearest to a quotient;
* `Format.nearest`: the rank nearest to a quotient of units;
* `Number.ofScaled`: the number nearest to a decimal number;
* `narrow`: a double as a single, `none` when a finite number would become infinite;
* `widen`: a single as the double equal to it;
* `roundToSingle?`: the double equal to the single nearest to a double.
-/

namespace Claw.Binary

/-- The natural number nearest to `num / den`, the even one if two are. -/
def halfEven (num den : Nat) : Nat :=
  let floor := num / den
  let rest := num % den
  if 2 * rest < den then floor
  else if den < 2 * rest then floor + 1
  else floor + floor % 2

/-- The rank nearest to `num / den` units, the even one if two are. -/
def Format.nearest (f : Format) (num den : Nat) : Nat :=
  let whole := num / den
  if whole < f.binade then halfEven num den
  else
    let shift := whole.log2 + 1 - f.precision
    shift * f.binade + halfEven num (den * Nat.pow 2 shift)

/-- Numerator of the quotient of units equal to `coefficient * 10 ^ exponent`. -/
def Format.scaledNum (f : Format) (coefficient : Nat) (exponent : Int) : Nat :=
  coefficient * Nat.pow 10 exponent.toNat * Nat.pow 2 f.unitExponent

/-- Denominator of the quotient of units equal to `coefficient * 10 ^ exponent`. -/
def scaledDen (exponent : Int) : Nat :=
  Nat.pow 10 (-exponent).toNat

/-- Decimal numbers from `10 ^ ceiling` on are beyond the greatest double. -/
def ceiling : Int := 310

/-- Positive decimal numbers below `10 ^ floor` are nearer to zero than to the least double. -/
def floor : Int := -400

/-- The number of decimal digits of a positive number. -/
def digitCount (n : Nat) : Nat :=
  (Nat.toDigits 10 n).length

/-- The rank of the double nearest to `coefficient * 10 ^ exponent`.  Numbers far outside the range
of the format are settled by their order of magnitude, so that no huge power is computed. -/
def nearestDouble (coefficient : Nat) (exponent : Int) : Nat :=
  if coefficient = 0 then 0
  else
    let size := digitCount coefficient + exponent
    if ceiling < size then double.ranks
    else if size ≤ floor then 0
    else double.nearest (double.scaledNum coefficient exponent) (scaledDen exponent)

/-- The double nearest to what a numeral denotes. -/
def Number.ofReal : Numeral.Real → Number double
  | .nan => .nan
  | .infinity negative => .infinite negative
  | .number negative coefficient exponent => .ofRank negative (nearestDouble coefficient exponent)

/-- How many units of the double format make one unit of the single format. -/
def unitRatio : Nat :=
  Nat.pow 2 (double.unitExponent - single.unitExponent)

/-- The single nearest to a double, `none` when a finite double is beyond the finite singles. -/
def narrow : Number double → Option (Number single)
  | .nan => some .nan
  | .infinite negative => some (.infinite negative)
  | .finite negative rank =>
    let nearest := single.nearest (double.units rank) unitRatio
    if h : nearest < single.ranks then some (.finite negative ⟨nearest, h⟩) else none

/-- The double equal to a single. -/
def widen : Number single → Number double
  | .nan => .nan
  | .infinite negative => .infinite negative
  | .finite negative rank => .ofRank negative (double.nearest (single.units rank * unitRatio) 1)

/-- The double equal to the single nearest to a double, `none` on overflow. -/
def roundToSingle? (x : Number double) : Option (Number double) :=
  (narrow x).map widen

end Claw.Binary
