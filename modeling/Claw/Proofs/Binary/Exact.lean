import Claw.Proofs.Binary.Overflow

/-!
# Numbers that are not rounded

A decimal number that is a double is rounded to this double, and the double of a single is rounded
to this single.  So a single that is written out exactly survives both roundings.

* `nearestDouble_eq`: the first rounding.  Most numbers are rounded by the quotient of units, where a
  magnitude of the format is its own rounding; the shortcuts for numbers far outside the range are
  never taken for a magnitude of the format;
* `Format.units_fields`: the magnitude of a rank by the two fields that it consists of;
* `FiniteSingle`: a finite single by the three fields of its bit pattern.  `FiniteSingle.magnitude`
  is its magnitude as the standard has it, and `units_rank` that this is the magnitude of its rank;
* `ofReal_eq_widen`: both roundings.

Consumed by `Claw/Proofs/Singles.lean` and `Claw/Proofs/Binary/Correct.lean`.
-/

namespace Claw.Binary

/-! ## Doubles -/

/-- A finite double is below the bound. -/
lemma units_lt_overflowBound (rank : Fin double.ranks) :
    double.units rank < overflowBound * 2 ^ double.unitExponent := by
  have hlast : double.units rank ≤ double.units (double.ranks - 1) :=
    double.units_strictMono.monotone (Nat.le_sub_one_of_lt rank.isLt)
  have hstep : double.units (double.ranks - 1) < double.units double.ranks :=
    double.units_strictMono (by decide)
  have hmiddle := units_ranks_double
  omega

/-- The power of ten below which numbers are settled as too small is less than one unit. -/
lemma pow_floor_mul_lt : (10 : ℚ) ^ floor * 2 ^ double.unitExponent < 1 := by
  have h : 2 ^ double.unitExponent < 10 ^ (-floor).toNat := by decide +kernel
  have hfloor : floor = -((-floor).toNat : Int) := rfl
  rw [hfloor, zpow_neg, zpow_natCast, inv_mul_lt_one₀ (by positivity)]
  exact_mod_cast h

/-- **A decimal number that is a double** is rounded to this double. -/
lemma nearestDouble_eq {coefficient : Nat} {exponent : Int} (rank : Fin double.ranks)
    (h : (coefficient : ℚ) * 10 ^ exponent * 2 ^ double.unitExponent = double.units rank) :
    nearestDouble coefficient exponent = rank := by
  unfold nearestDouble
  dsimp only
  split_ifs with hzero hgreat hsmall
  · subst hzero
    have hunits : double.units rank = double.units 0 := by
      rw [Nat.cast_zero, zero_mul, zero_mul] at h
      exact_mod_cast h.symm
    exact (double.units_strictMono.injective hunits).symm
  · -- the number would not be below the bound
    have hlt : (double.units rank : ℚ) < overflowBound * 2 ^ double.unitExponent := by
      exact_mod_cast units_lt_overflowBound rank
    rw [← h, mul_lt_mul_iff_left₀ (by positivity)] at hlt
    exact absurd (overflowBound_le_decimal hzero hgreat) hlt.not_ge
  · -- the number would be positive and below one unit
    have hpos : (0 : ℚ) < double.units rank := by
      rw [← h]
      have hcoefficient : (0 : ℚ) < coefficient := by exact_mod_cast Nat.pos_of_ne_zero hzero
      positivity
    have hone : (1 : ℚ) ≤ double.units rank := by exact_mod_cast hpos
    have hunit := mul_lt_mul_of_pos_right (decimal_lt_pow_floor hsmall)
      (show (0 : ℚ) < 2 ^ double.unitExponent by positivity)
    rw [h] at hunit
    exact absurd (hone.trans_lt (hunit.trans pow_floor_mul_lt)) (lt_irrefl _)
  · have hscaled : double.scaledNum coefficient exponent =
        double.units rank * scaledDen exponent := by
      have hcast := scaledNum_eq double coefficient exponent
      rw [h] at hcast
      exact_mod_cast hcast
    rw [hscaled, Format.nearest_units one_lt_precision_double (scaledDen_pos exponent)]

/-! ## Fields of bit patterns -/

/-- The magnitude of a number by its biased exponent and its fraction: with the least exponent there
is no leading bit, and every further step of the exponent doubles the unit of the fraction. -/
def Format.magnitude (f : Format) (exponent fraction : Nat) : ℚ :=
  if exponent = 0 then fraction * 2 ^ (-(f.unitExponent : Int))
  else (f.binade + fraction) * 2 ^ ((exponent : Int) - (f.unitExponent + 1))

/-- Every step of the exponent doubles the distance of neighbours, except for the first. -/
lemma Format.units_fields (f : Format) (exponent : Nat) {fraction : Nat}
    (h : fraction < f.binade) :
    (f.units (exponent * f.binade + fraction) : ℚ) =
      f.magnitude exponent fraction * 2 ^ f.unitExponent := by
  have htwo : (2 : ℚ) ≠ 0 := two_ne_zero
  rw [magnitude]
  cases exponent with
  | zero =>
    rw [if_pos rfl, units_add (.inl rfl) (by omega), pow_zero, mul_one, mul_assoc,
      ← zpow_natCast (2 : ℚ) f.unitExponent, ← zpow_add₀ htwo, neg_add_cancel, zpow_zero, mul_one]
  | succ s =>
    have hpower : (2 : ℚ) ^ (((s + 1 : Nat) : Int) - (f.unitExponent + 1)) * 2 ^ f.unitExponent =
        2 ^ s := by
      rw [← zpow_natCast (2 : ℚ) f.unitExponent, ← zpow_add₀ htwo, ← zpow_natCast]
      congr 1
      push_cast
      ring
    rw [if_neg s.succ_ne_zero, mul_assoc, hpower, Nat.succ_mul, Nat.add_assoc,
      units_add (.inr (by omega)) (by omega)]
    push_cast
    rfl

/-! ## Singles -/

/-- A finite single-precision number by the fields of its bit pattern. -/
structure FiniteSingle where
  negative : Bool
  /-- The biased exponent; the greatest one belongs to the numbers that are not finite. -/
  exponent : Fin 255
  fraction : Fin (2 ^ 23)
  deriving DecidableEq, Repr

namespace FiniteSingle

/-- The magnitude of a single: with the least exponent there is no leading bit, and the others count
from 127 + 23 down. -/
def magnitude (x : FiniteSingle) : ℚ :=
  if x.exponent.val = 0 then x.fraction.val * 2 ^ (-149 : Int)
  else (2 ^ 23 + x.fraction.val) * 2 ^ ((x.exponent.val : Int) - 150)

lemma rank_lt (x : FiniteSingle) : x.exponent.val * 2 ^ 23 + x.fraction.val < single.ranks := by
  have hranks : single.ranks = 255 * 2 ^ 23 := rfl
  omega

/-- The rank of a single is its bit pattern without the sign. -/
def rank (x : FiniteSingle) : Fin single.ranks :=
  ⟨x.exponent.val * 2 ^ 23 + x.fraction.val, x.rank_lt⟩

/-- The single as a number of its format. -/
def number (x : FiniteSingle) : Number single :=
  .finite x.negative x.rank

lemma exists_number_eq (negative : Bool) (rank : Fin single.ranks) :
    ∃ x : FiniteSingle, x.number = .finite negative rank := by
  have hranks : single.ranks = 255 * 2 ^ 23 := rfl
  have hrank := rank.isLt
  refine ⟨⟨negative, ⟨rank / 2 ^ 23, by omega⟩, ⟨rank % 2 ^ 23, by omega⟩⟩, ?_⟩
  exact congrArg (Number.finite negative) (Fin.ext (Nat.div_add_mod' _ _))

lemma magnitude_eq (x : FiniteSingle) : x.magnitude = single.magnitude x.exponent x.fraction := by
  have hbinade : ((single.binade : Nat) : ℚ) = 2 ^ 23 := by norm_num [single, Format.binade]
  rw [magnitude, Format.magnitude, hbinade]
  rfl

/-- The magnitude of a single is that of its rank. -/
lemma units_rank (x : FiniteSingle) :
    (single.units x.rank : ℚ) = x.magnitude * 2 ^ single.unitExponent := by
  rw [magnitude_eq]
  exact single.units_fields x.exponent x.fraction.isLt

/-- **Both roundings.** A decimal number with the magnitude of a single becomes the double of the
single, and this double is rounded to itself. -/
lemma ofReal_eq_widen (x : FiniteSingle) {coefficient : Nat} {exponent : Int}
    (h : (coefficient : ℚ) * 10 ^ exponent = x.magnitude) :
    Number.ofReal (.number x.negative coefficient exponent) = widen x.number ∧
      roundToSingle? (widen x.number) = some (widen x.number) := by
  refine ⟨?_, isSingle_iff.mp (isSingle_widen _)⟩
  obtain ⟨rank', hwiden, hunits⟩ := exists_widen_eq x.negative x.rank
  have hexact : (coefficient : ℚ) * 10 ^ exponent * 2 ^ double.unitExponent = double.units rank' := by
    have hsplit : double.unitExponent =
        single.unitExponent + (double.unitExponent - single.unitExponent) := by decide
    rw [h, hsplit, pow_add, ← mul_assoc, ← x.units_rank, hunits, unitRatio_eq]
    push_cast
    rfl
  rw [number, hwiden, Number.ofReal, nearestDouble_eq rank' hexact,
    Number.ofRank_of_lt _ rank'.isLt]

end FiniteSingle

end Claw.Binary
