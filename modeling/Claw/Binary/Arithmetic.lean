import Claw.Binary.Rounding

/-!
# Arithmetic

Sums and products of numbers of a format, each the number nearest to the exact result.  A zero has a
sign: a sum of opposite numbers is positive zero, and the sign of a product is that of its factors
also where it is zero.

* `Number.neg`, `Number.add`, `Number.mul`.
-/

namespace Claw.Binary

namespace Number

variable {f : Format}

/-- The number with the opposite sign. -/
def neg : Number f → Number f
  | .nan => .nan
  | .infinite negative => .infinite !negative
  | .finite negative rank => .finite (!negative) rank

/-- The magnitude of a rank with a sign, in units. -/
def signedUnits (negative : Bool) (rank : Fin f.ranks) : Int :=
  if negative then -(f.units rank : Int) else f.units rank

/-- The number nearest to a whole number of units; the sign of zero is given. -/
def ofUnits (zeroSign : Bool) (units : Int) : Number f :=
  .ofRank (if units = 0 then zeroSign else units < 0) (f.nearest units.natAbs 1)

/-- The sum of two numbers. -/
def add : Number f → Number f → Number f
  | .finite negative rank, .finite negative' rank' =>
    .ofUnits (negative && negative') (signedUnits negative rank + signedUnits negative' rank')
  | .infinite negative, .infinite negative' =>
    if negative = negative' then .infinite negative else .nan
  | .infinite negative, .finite .. | .finite .., .infinite negative => .infinite negative
  | .nan, _ | _, .nan => .nan

/-- The product of a finite number with an infinite one. -/
def mulInfinite (negative : Bool) (rank : Fin f.ranks) : Number f :=
  if rank.val = 0 then .nan else .infinite negative

/-- The product of two numbers. -/
def mul : Number f → Number f → Number f
  | .finite negative rank, .finite negative' rank' =>
    .ofRank (negative ^^ negative')
      (f.nearest (f.units rank * f.units rank') (Nat.pow 2 f.unitExponent))
  | .infinite negative, .infinite negative' => .infinite (negative ^^ negative')
  | .infinite negative, .finite negative' rank | .finite negative' rank, .infinite negative =>
    mulInfinite (negative ^^ negative') rank
  | .nan, _ | _, .nan => .nan

end Number

end Claw.Binary
