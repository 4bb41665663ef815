/-!
# Binary floating-point formats

A format fixes which numbers exist.  Its finite magnitudes are natural multiples of its least
positive one, the *unit*; counted upwards from zero they have a *rank*, and rank and bit pattern are
the same number.  Subnormal numbers are the first ranks; from there on every `2 ^ (precision - 1)`
ranks the distance of neighbours doubles.

* `Format`: precision, unit and number of finite magnitudes; `double` and `single`;
* `Format.units`: the magnitude of a rank, in units, an exact natural number;
* `Number`: a number of a format: not-a-number, an infinity, or a sign with a rank;
* `Number.ofBits`: the number with a given bit pattern in the double format.

There is one not-a-number, because nothing in this library tells two of them apart.
-/

namespace Claw.Binary

/-- The parameters of a binary floating-point format. -/
structure Format where
  /-- The number of significant bits. -/
  precision : Nat
  /-- The least positive magnitude is `2 ^ (-unitExponent)`. -/
  unitExponent : Nat
  /-- The number of finite magnitudes, zero included. -/
  ranks : Nat
  deriving DecidableEq, Repr

/-- The format of 64 bits. -/
def double : Format := ⟨53, 1074, 2047 * Nat.pow 2 52⟩

/-- The format of 32 bits. -/
def single : Format := ⟨24, 149, 255 * Nat.pow 2 23⟩

namespace Format

/-- The number of ranks between two doublings of the distance of neighbours. -/
def binade (f : Format) : Nat :=
  Nat.pow 2 (f.precision - 1)

/-- The magnitude of a rank, in units.  Ranks beyond the finite ones continue the scale. -/
def units (f : Format) (rank : Nat) : Nat :=
  if rank < f.binade then rank
  else (f.binade + rank % f.binade) * Nat.pow 2 (rank / f.binade - 1)

end Format

/-- A number of a format. -/
inductive Number (f : Format)
  | nan
  | infinite (negative : Bool)
  | finite (negative : Bool) (rank : Fin f.ranks)
  deriving DecidableEq, Repr

/-- The number with the given sign and rank, an infinity if the rank is not finite. -/
def Number.ofRank {f : Format} (negative : Bool) (rank : Nat) : Number f :=
  if h : rank < f.ranks then .finite negative ⟨rank, h⟩ else .infinite negative

/-- Whether a number is neither infinite nor not-a-number. -/
def Number.isFinite {f : Format} : Number f → Bool
  | .finite .. => true
  | _ => false

/-- The number with the given bit pattern. -/
def Number.ofBits (bits : UInt64) : Number double :=
  let negative := Nat.pow 2 63 ≤ bits.toNat
  let rank := bits.toNat % Nat.pow 2 63
  if rank ≤ double.ranks then .ofRank negative rank else .nan

end Claw.Binary
