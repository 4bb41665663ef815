import Claw.Binary.Rounding
import Claw.Numeral.Decimal

/-!
# The shortest decimal text of a double

A double is written with as few significant digits as still denote it, and of those digit sequences
with the one nearest to it.

* `readsBack`: whether a decimal number denotes the double of a rank;
* `shortest`: the digits and the power of ten for a rank;
* `Layout`: where the decimal point goes and when an exponent is written instead;
* `Number.text`: the text of a double.

`shortest` tries one digit, two digits, and so on.  On the grid of decimal numbers with that many
digits it looks at the two neighbours of the double; if any point of the grid denotes the double,
then one of the two does.  Seventeen digits are always enough.
-/

namespace Claw.Binary

/-- A positive decimal number, `coefficient * 10 ^ exponent`. -/
structure Decimal where
  coefficient : Nat
  exponent : Int
  deriving DecidableEq, Repr

/-- Whether the double nearest to a decimal number is that of the rank. -/
def readsBack (rank : Nat) (d : Decimal) : Bool :=
  nearestDouble d.coefficient d.exponent == rank

/-- The `k` with `10 ^ (k - 1) ≤ num / den < 10 ^ k`, for a positive quotient. -/
def magnitude (num den : Nat) : Int :=
  if den ≤ num then digitCount (num / den)
  else
    let inverse := (den - 1) / num
    if inverse = 0 then 1 else 1 - (digitCount inverse : Int)

/-- The candidate on the grid of `10 ^ exponent` for the quotient `num / den`: of its two neighbours
on the grid the one that reads back, and if both do the nearer, with a tie going to the even one. -/
def candidate? (rank num den : Nat) (exponent : Int) : Option Decimal :=
  let top := num * Nat.pow 10 (-exponent).toNat
  let bottom := den * Nat.pow 10 exponent.toNat
  let below : Decimal := ⟨top / bottom, exponent⟩
  let above : Decimal := ⟨top / bottom + 1, exponent⟩
  match readsBack rank below, readsBack rank above with
  | true, true => some ⟨halfEven top bottom, exponent⟩
  | true, false => some below
  | false, true => some above
  | false, false => none

/-- The shortest decimal number that denotes the double of a positive rank. -/
def shortest (rank : Nat) : Decimal :=
  let num := double.units rank
  let den := Nat.pow 2 double.unitExponent
  let k := magnitude num den
  let grids := (List.range 17).map fun n => k - (n + 1 : Nat)
  (grids.findSome? (candidate? rank num den)).getD ⟨num, 0⟩

/-- How a decimal number is laid out. -/
structure Layout where
  /-- The least exponent of ten, of the first digit, that is written positionally. -/
  leastPositional : Int
  /-- The greatest exponent of ten, of the first digit, that is written positionally. -/
  greatestPositional : Int
  /-- The least number of digits of a written exponent. -/
  exponentDigits : Nat

/-- Exponents from -4 to 15 are positional; others are written with a sign and two digits. -/
def standardLayout : Layout := ⟨-4, 15, 2⟩

/-- The text of an exponent: a sign and as many digits as the layout asks for. -/
def Layout.exponentText (layout : Layout) (e : Int) : List Char :=
  (if e < 0 then '-' else '+') :: Numeral.paddedDigits 10 layout.exponentDigits e.natAbs

/-- The text of digits of which the first has the given exponent of ten. -/
def Layout.text (layout : Layout) (digits : List Char) (e : Int) : List Char :=
  if layout.leastPositional ≤ e && e ≤ layout.greatestPositional then
    if e < 0 then
      -- every digit stands behind the point
      '0' :: '.' :: (List.replicate (-e - 1).toNat '0' ++ digits)
    else
      let whole := e.toNat + 1
      let fraction := digits.drop whole
      digits.take whole ++ List.replicate (whole - digits.length) '0' ++
        '.' :: (if fraction.isEmpty then ['0'] else fraction)
  else
    let mantissa := match digits with
      | first :: second :: rest => first :: '.' :: second :: rest
      | digits => digits
    mantissa ++ 'e' :: layout.exponentText e

/-- The significant digits of a coefficient, without trailing zeros. -/
def significant (coefficient : Nat) : List Char :=
  ((Nat.toDigits 10 coefficient).reverse.dropWhile (· == '0')).reverse

/-- The text of the magnitude of a rank. -/
def magnitudeText (rank : Nat) : List Char :=
  if rank = 0 then ['0', '.', '0']
  else
    let d := shortest rank
    standardLayout.text (significant d.coefficient) (digitCount d.coefficient - 1 + d.exponent)

/-- The text of a double. -/
def Number.text : Number double → String
  | .nan => "nan"
  | .infinite negative => if negative then "-inf" else "inf"
  | .finite negative rank =>
    String.ofList (if negative then '-' :: magnitudeText rank else magnitudeText rank)

end Claw.Binary
