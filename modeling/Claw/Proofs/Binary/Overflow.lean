import Claw.Proofs.Binary.Single
import Mathlib.Algebra.Order.Field.Power
import Mathlib.Data.Rat.Cast.Order
import Mathlib.Tactic.NormNum

/-!
# Where decimal numbers leave the doubles

A decimal number of any length is rounded to a double, to an infinity if it is too great.  The bound
is `overflowBound`, in the middle between the greatest double and the power of two behind it.

* `scaledNum_eq`: the quotient of units that a decimal number is rounded by is the number;
* `pow_le_decimal`, `decimal_lt_pow`: a decimal number between two powers of ten, by its size;
  `overflowBound_le_decimal`, `decimal_lt_pow_floor`: where its size settles what it is rounded to;
* `ranks_le_nearestDouble_iff`: the numbers that are rounded to an infinity, whether they are settled
  by their size or by rounding;
* `Number.ofReal_number_cases`: what a number is rounded to.
-/

namespace Claw.Binary

/-- The least number that is rounded to an infinity. -/
def overflowBound : Nat :=
  2 ^ 1024 - 2 ^ 970

lemma scaledDen_pos (exponent : Int) : 0 < scaledDen exponent :=
  Nat.pow_pos (by decide)

/-- The quotient of units is the decimal number. -/
lemma scaledNum_eq (f : Format) (coefficient : Nat) (exponent : Int) :
    (f.scaledNum coefficient exponent : ℚ) =
      coefficient * 10 ^ exponent * 2 ^ f.unitExponent * scaledDen exponent := by
  have hsplit : exponent = (exponent.toNat : Int) - ((-exponent).toNat : Int) := by omega
  have hpower : (10 : ℚ) ^ exponent * 10 ^ (-exponent).toNat = 10 ^ exponent.toNat := by
    conv_lhs => enter [1]; rw [hsplit]
    rw [zpow_sub₀ (by norm_num), zpow_natCast, zpow_natCast, div_mul_cancel₀ _ (by positivity)]
  rw [Format.scaledNum, scaledDen, Nat.pow_eq, Nat.pow_eq, Nat.pow_eq]
  push_cast
  rw [← hpower]
  ring

/-! ## The size of a decimal number -/

lemma digitCount_le_iff {n k : Nat} (h : 0 < k) : digitCount n ≤ k ↔ n < 10 ^ k :=
  Nat.length_toDigits_le_iff (by decide) h

lemma digitCount_pos (n : Nat) : 0 < digitCount n :=
  List.length_pos_iff.mpr Nat.toDigits_ne_nil

lemma decimal_lt_pow (coefficient : Nat) (exponent : Int) :
    (coefficient : ℚ) * 10 ^ exponent < 10 ^ (digitCount coefficient + exponent) := by
  have hlt : coefficient < 10 ^ digitCount coefficient :=
    (digitCount_le_iff (digitCount_pos _)).mp le_rfl
  rw [zpow_add₀ (by norm_num), zpow_natCast]
  exact mul_lt_mul_of_pos_right (by exact_mod_cast hlt) (by positivity)

lemma pow_le_decimal {coefficient : Nat} (exponent : Int) (h : coefficient ≠ 0) :
    (10 : ℚ) ^ (digitCount coefficient + exponent - 1) ≤ coefficient * 10 ^ exponent := by
  have hpos := digitCount_pos coefficient
  have hle : 10 ^ (digitCount coefficient - 1) ≤ coefficient := by
    rcases Nat.eq_or_lt_of_le hpos with hone | hmore
    · rw [← hone]
      exact Nat.one_le_iff_ne_zero.mpr h
    · rw [← not_lt, ← digitCount_le_iff (by omega)]
      omega
  have hsplit : (digitCount coefficient + exponent - 1 : Int) =
      ((digitCount coefficient - 1 : Nat) : Int) + exponent := by omega
  rw [hsplit, zpow_add₀ (by norm_num), zpow_natCast]
  exact mul_le_mul_of_nonneg_right (by exact_mod_cast hle) (by positivity)

/-! ## The bound -/

/-- The bound is the middle between the greatest double and the next magnitude of the scale. -/
lemma units_ranks_double :
    double.units (double.ranks - 1) + double.units double.ranks =
      2 * (overflowBound * 2 ^ double.unitExponent) := by
  decide +kernel

lemma overflowBound_le : (overflowBound : ℚ) ≤ 10 ^ ceiling := by
  have h : overflowBound ≤ 10 ^ ceiling.toNat := by decide +kernel
  have hceiling : ceiling = (ceiling.toNat : Int) := rfl
  rw [hceiling, zpow_natCast]
  exact_mod_cast h

lemma pow_floor_lt : (10 : ℚ) ^ floor < overflowBound := by
  have h : 1 ≤ overflowBound := by decide +kernel
  have hfloor : (10 : ℚ) ^ floor < 1 := zpow_lt_one_of_neg₀ (by norm_num) (by decide)
  exact hfloor.trans_le (by exact_mod_cast h)

lemma le_scaledNum_iff (f : Format) (bound coefficient : Nat) (exponent : Int) :
    2 * (bound * 2 ^ f.unitExponent) * scaledDen exponent ≤ 2 * f.scaledNum coefficient exponent ↔
      (bound : ℚ) ≤ coefficient * 10 ^ exponent := by
  have hden : (0 : ℚ) < 2 ^ f.unitExponent * scaledDen exponent :=
    mul_pos (by positivity) (by exact_mod_cast scaledDen_pos exponent)
  rw [Nat.mul_assoc, Nat.mul_le_mul_left_iff two_pos, ← Nat.cast_le (α := ℚ), scaledNum_eq]
  push_cast
  rw [mul_assoc, mul_assoc _ (2 ^ f.unitExponent : ℚ), mul_le_mul_iff_left₀ hden]

/-- A number that is settled as too great by its size is not below the bound. -/
lemma overflowBound_le_decimal {coefficient : Nat} {exponent : Int} (hne : coefficient ≠ 0)
    (h : ceiling < digitCount coefficient + exponent) :
    (overflowBound : ℚ) ≤ coefficient * 10 ^ exponent := by
  calc (overflowBound : ℚ) ≤ 10 ^ ceiling := overflowBound_le
    _ ≤ 10 ^ (digitCount coefficient + exponent - 1) :=
      zpow_le_zpow_right₀ (by norm_num) (by omega)
    _ ≤ coefficient * 10 ^ exponent := pow_le_decimal exponent hne

/-- A number that is settled as too small by its size is below the power of ten in question. -/
lemma decimal_lt_pow_floor {coefficient : Nat} {exponent : Int}
    (h : digitCount coefficient + exponent ≤ floor) :
    (coefficient : ℚ) * 10 ^ exponent < 10 ^ floor :=
  (decimal_lt_pow coefficient exponent).trans_le (zpow_le_zpow_right₀ (by norm_num) h)

/-- **Overflow of decimal numbers.** A number is rounded to an infinity just if it is not below the
bound. -/
theorem ranks_le_nearestDouble_iff (coefficient : Nat) (exponent : Int) :
    double.ranks ≤ nearestDouble coefficient exponent ↔
      (overflowBound : ℚ) ≤ coefficient * 10 ^ exponent := by
  have hranks : ¬double.ranks ≤ 0 := by decide
  have hbound : (0 : ℚ) < overflowBound := lt_trans (by positivity) pow_floor_lt
  unfold nearestDouble
  dsimp only
  split_ifs with hzero hgreat hsmall
  · subst hzero
    refine iff_of_false hranks ?_
    rw [Nat.cast_zero, zero_mul]
    exact hbound.not_ge
  · exact iff_of_true le_rfl (overflowBound_le_decimal hzero hgreat)
  · exact iff_of_false hranks ((decimal_lt_pow_floor hsmall).trans pow_floor_lt).not_ge
  · rw [Format.le_nearest_iff one_lt_precision_double (scaledDen_pos exponent) (by decide)
      (by decide), units_ranks_double, le_scaledNum_iff]

/-- A number is rounded to an infinity or to a finite double, according to the bound. -/
lemma Number.ofReal_number_cases (negative : Bool) (coefficient : Nat) (exponent : Int) :
    (overflowBound : ℚ) ≤ coefficient * 10 ^ exponent ∧
        Number.ofReal (.number negative coefficient exponent) = .infinite negative ∨
      ¬(overflowBound : ℚ) ≤ coefficient * 10 ^ exponent ∧
        ∃ rank, Number.ofReal (.number negative coefficient exponent) = .finite negative rank := by
  rw [← ranks_le_nearestDouble_iff, Number.ofReal]
  by_cases h : double.ranks ≤ nearestDouble coefficient exponent
  · exact .inl ⟨h, Number.ofRank_of_ge negative h⟩
  · exact .inr ⟨h, _, Number.ofRank_of_lt negative (Nat.lt_of_not_le h)⟩

end Claw.Binary
