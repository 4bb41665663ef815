import Claw.Literal
import Claw.Proofs.Binary.Exact

/-!
# Rounding to singles is correct

A double is read here as an exact rational number by the fields of its bit pattern, and so is a
single.  Of all singles the one that a double is rounded to is nearest to it, and where two are
equally near it is the even one; a double is refused just if it is as far from zero as the middle
between the greatest single and the power of two behind it.

* `DoubleBits.value`, `FiniteSingle.value`: the rational numbers that bit patterns stand for;
* `IsNearest`: a single is what a rational number is to be rounded to;
* `Format.abs_sub_units_nearest_le`: the computed rank is nearest, by magnitudes;
* `DoubleBits.roundToSingle?_eq_none_iff`: the doubles that are refused;
* `DoubleBits.exists_result`: what any other finite double becomes.

The sign plays no part in rounding a magnitude, and a single of the other sign is never nearer than
zero is (`isNearest_of_rank`).
-/

namespace Claw.Binary

/-! ## Values of bit patterns -/

/-- The magnitude with the given sign. -/
def signed (negative : Bool) (magnitude : ℚ) : ℚ :=
  if negative then -magnitude else magnitude

/-- A finite single as a rational number. -/
def FiniteSingle.value (x : FiniteSingle) : ℚ :=
  signed x.negative x.magnitude

namespace DoubleBits

variable (bits : UInt64)

/-- The first bit is the sign. -/
def negative : Bool :=
  bits.toNat / 2 ^ 63 = 1

/-- The next eleven bits are the biased exponent. -/
def exponent : Nat :=
  bits.toNat / 2 ^ 52 % 2 ^ 11

/-- The other bits are the fraction. -/
def fraction : Nat :=
  bits.toNat % 2 ^ 52

/-- The greatest exponent belongs to the numbers that are not finite. -/
def IsFinite : Prop :=
  exponent bits ≠ 2047

instance : Decidable (IsFinite bits) :=
  inferInstanceAs (Decidable (_ ≠ _))

/-- The magnitude of a double: with the least exponent there is no leading bit, and the others count
from 1023 + 52 down. -/
def magnitude : ℚ :=
  if exponent bits = 0 then fraction bits * 2 ^ (-1074 : Int)
  else (2 ^ 52 + fraction bits) * 2 ^ ((exponent bits : Int) - 1075)

/-- A finite double as a rational number. -/
def value : ℚ :=
  signed (negative bits) (magnitude bits)

end DoubleBits

/-- The single is the nearest to a number, and an even one if another one is as near. -/
structure IsNearest (number : ℚ) (single : FiniteSingle) : Prop where
  nearest : ∀ other : FiniteSingle, |number - single.value| ≤ |number - other.value|
  even : ∀ other : FiniteSingle, other.value ≠ single.value →
    |number - other.value| = |number - single.value| → single.fraction.val % 2 = 0

/-! ## Fields and ranks -/

namespace DoubleBits

variable {bits : UInt64}

lemma value_of_fields (bits : UInt64) (sign : Bool) (leading trailing : Nat) (hne : leading ≠ 0)
    (h : negative bits = sign ∧ exponent bits = leading ∧ fraction bits = trailing) :
    value bits = signed sign ((2 ^ 52 + trailing) * 2 ^ ((leading : Int) - 1075)) := by
  obtain ⟨rfl, rfl, rfl⟩ := h
  rw [value, magnitude, if_neg hne]

lemma mod_eq_fields (bits : UInt64) :
    bits.toNat % 2 ^ 63 = exponent bits * 2 ^ 52 + fraction bits := by
  unfold exponent fraction
  omega

lemma decide_le_eq_negative (bits : UInt64) :
    decide (2 ^ 63 ≤ bits.toNat) = negative bits := by
  have := bits.toNat_lt
  unfold negative
  rw [decide_eq_decide]
  omega

lemma ofBits_eq (bits : UInt64) :
    Number.ofBits bits =
      if exponent bits * 2 ^ 52 + fraction bits ≤ double.ranks then
        .ofRank (negative bits) (exponent bits * 2 ^ 52 + fraction bits)
      else .nan := by
  rw [← decide_le_eq_negative, ← mod_eq_fields]
  rfl

lemma exponent_le (bits : UInt64) : exponent bits ≤ 2047 := by
  unfold exponent
  omega

lemma fraction_lt (bits : UInt64) : fraction bits < 2 ^ 52 :=
  Nat.mod_lt _ (by decide)

/-- The rank of a finite double is its bit pattern without the sign. -/
lemma exists_ofBits_eq_finite (h : IsFinite bits) :
    ∃ rank : Fin double.ranks, rank.val = exponent bits * 2 ^ 52 + fraction bits ∧
      Number.ofBits bits = .finite (negative bits) rank := by
  have hranks : double.ranks = 2047 * 2 ^ 52 := rfl
  have hlt : exponent bits * 2 ^ 52 + fraction bits < double.ranks := by
    have := fraction_lt bits
    have := exponent_le bits
    unfold IsFinite at h
    omega
  exact ⟨⟨_, hlt⟩, rfl, by rw [ofBits_eq, if_pos hlt.le, Number.ofRank_of_lt _ hlt]⟩

lemma ofBits_of_exponent_eq (h : exponent bits = 2047) :
    Number.ofBits bits = if fraction bits = 0 then .infinite (negative bits) else .nan := by
  have hranks : double.ranks = 2047 * 2 ^ 52 := rfl
  rw [ofBits_eq, h]
  split_ifs with hle hzero
  · rw [hzero, Nat.add_zero, Number.ofRank_of_ge _ hranks.le]
  · omega
  · omega
  · rfl

lemma magnitude_eq (bits : UInt64) :
    magnitude bits = double.magnitude (exponent bits) (fraction bits) := by
  have hbinade : ((double.binade : Nat) : ℚ) = 2 ^ 52 := by norm_num [double, Format.binade]
  rw [magnitude, Format.magnitude, hbinade]
  rfl

lemma units_fields (bits : UInt64) :
    (double.units (exponent bits * 2 ^ 52 + fraction bits) : ℚ) =
      magnitude bits * 2 ^ double.unitExponent := by
  rw [magnitude_eq]
  exact double.units_fields (exponent bits) (fraction_lt bits)

/-- Every finite number of the format has a bit pattern. -/
lemma exists_isFinite (sign : Bool) (rank : Fin double.ranks) :
    ∃ bits, IsFinite bits ∧ Number.ofBits bits = .finite sign rank := by
  have hranks : double.ranks = 2047 * 2 ^ 52 := rfl
  have hsize : UInt64.size = 2 ^ 64 := rfl
  have hrank := rank.isLt
  obtain ⟨bits, hbits⟩ : ∃ bits : UInt64, bits.toNat = sign.toNat * 2 ^ 63 + rank :=
    ⟨.ofNat _, UInt64.toNat_ofNat_of_lt' (by have := sign.toNat_le; omega)⟩
  have hfields : exponent bits * 2 ^ 52 + fraction bits = rank := by
    rw [← mod_eq_fields, hbits]
    omega
  have hfinite : IsFinite bits := by
    unfold IsFinite
    omega
  have hsign : negative bits = sign := by
    unfold negative
    cases sign <;> simp at hbits ⊢ <;> omega
  obtain ⟨rank', hrank', hof⟩ := exists_ofBits_eq_finite hfinite
  exact ⟨bits, hfinite, by rw [hof, hsign, Fin.ext (hrank'.trans hfields)]⟩

end DoubleBits

/-! ## Distances -/

/-- Of two numbers the lower one is as near if the middle is not passed. -/
lemma abs_sub_le_abs_sub_iff {number low high : ℚ} (h : low < high) :
    |number - low| ≤ |number - high| ↔ 2 * number ≤ low + high := by
  rw [← sq_le_sq]
  constructor
  · intro hle
    nlinarith
  · intro hle
    nlinarith

lemma abs_sub_le_abs_sub_iff' {number low high : ℚ} (h : low < high) :
    |number - high| ≤ |number - low| ↔ low + high ≤ 2 * number := by
  rw [← sq_le_sq]
  constructor
  · intro hle
    nlinarith
  · intro hle
    nlinarith

namespace Format

variable {f : Format} {num den : Nat} (hbits : 1 < f.precision) (hden : 0 < den)

include hbits hden

/-- Up to a greater rank the middle is not passed, and it is reached from even ranks only. -/
lemma nearest_le_middle {rank : Nat} (h : f.nearest num den < rank) :
    2 * num ≤ (f.units (f.nearest num den) + f.units rank) * den ∧
      (2 * num = (f.units (f.nearest num den) + f.units rank) * den →
        f.nearest num den % 2 = 0) := by
  have hspec := (nearest_le_iff hbits hden).mp (le_refl (f.nearest num den))
  have hunits := f.units_strictMono.monotone (show f.nearest num den + 1 ≤ rank from h)
  have hmul := Nat.mul_le_mul_right den (Nat.add_le_add_left hunits (f.units (f.nearest num den)))
  omega

/-- From a lesser rank on the middle is reached, and by even ranks only if it is not passed. -/
lemma middle_le_nearest {rank : Nat} (h : rank < f.nearest num den) :
    (f.units rank + f.units (f.nearest num den)) * den ≤ 2 * num ∧
      ((f.units rank + f.units (f.nearest num den)) * den = 2 * num →
        f.nearest num den % 2 = 0) := by
  obtain ⟨below, hbelow⟩ := Nat.exists_eq_add_one_of_ne_zero (Nat.ne_zero_of_lt h)
  have hspec : ¬f.nearest num den ≤ below := by omega
  rw [nearest_le_iff hbits hden] at hspec
  have hunits := f.units_strictMono.monotone (show rank ≤ below by omega)
  have hmul := Nat.mul_le_mul_right den (Nat.add_le_add_right hunits (f.units (below + 1)))
  rw [hbelow]
  omega

variable (num) in
/-- **The computed rank is nearest.** -/
lemma abs_sub_units_nearest_le (rank : Nat) :
    |(num : ℚ) - f.units (f.nearest num den) * den| ≤ |(num : ℚ) - f.units rank * den| ∧
      (rank ≠ f.nearest num den →
        |(num : ℚ) - f.units rank * den| = |(num : ℚ) - f.units (f.nearest num den) * den| →
          f.nearest num den % 2 = 0) := by
  have hcast : (0 : ℚ) < den := by exact_mod_cast hden
  have hscaled : ∀ {low high : Nat}, low < high →
      (f.units low : ℚ) * den < f.units high * den := fun hlt =>
    mul_lt_mul_of_pos_right (by exact_mod_cast f.units_strictMono hlt) hcast
  rcases Nat.lt_trichotomy rank (f.nearest num den) with hlt | rfl | hgt
  · obtain ⟨hle, heven⟩ := middle_le_nearest hbits hden hlt
    have hmiddle : (f.units rank : ℚ) * den + f.units (f.nearest num den) * den ≤ 2 * num := by
      rw [← add_mul]
      exact_mod_cast hle
    refine ⟨(abs_sub_le_abs_sub_iff' (hscaled hlt)).mpr hmiddle, fun _ heq => heven ?_⟩
    have hback := (abs_sub_le_abs_sub_iff (hscaled hlt)).mp heq.le
    rw [← add_mul] at hback
    exact le_antisymm hle (by exact_mod_cast hback)
  · exact ⟨le_rfl, fun hne => absurd rfl hne⟩
  · obtain ⟨hle, heven⟩ := nearest_le_middle hbits hden hgt
    have hmiddle : 2 * (num : ℚ) ≤ f.units (f.nearest num den) * den + f.units rank * den := by
      rw [← add_mul]
      exact_mod_cast hle
    refine ⟨(abs_sub_le_abs_sub_iff (hscaled hgt)).mpr hmiddle, fun _ heq => heven ?_⟩
    have hback := (abs_sub_le_abs_sub_iff' (hscaled hgt)).mp heq.le
    rw [← add_mul] at hback
    exact le_antisymm hle (by exact_mod_cast hback)

lemma nearest_mono {num' : Nat} (h : num ≤ num') : f.nearest num den ≤ f.nearest num' den := by
  rw [nearest_le_iff hbits hden]
  have := (nearest_le_iff hbits hden).mp (le_refl (f.nearest num' den))
  omega

end Format

/-! ## Magnitudes -/

lemma FiniteSingle.magnitude_nonneg (x : FiniteSingle) : 0 ≤ x.magnitude := by
  unfold magnitude
  split_ifs <;> positivity

lemma FiniteSingle.magnitude_zero (sign : Bool) :
    (⟨sign, 0, 0⟩ : FiniteSingle).magnitude = 0 := by
  simp [magnitude]

lemma DoubleBits.magnitude_nonneg (bits : UInt64) : 0 ≤ DoubleBits.magnitude bits := by
  unfold magnitude
  split_ifs <;> positivity

lemma FiniteSingle.magnitude_mul (x : FiniteSingle) :
    x.magnitude * 2 ^ double.unitExponent = single.units x.rank * (unitRatio : ℚ) := by
  have hsplit : double.unitExponent =
      single.unitExponent + (double.unitExponent - single.unitExponent) := by decide
  rw [x.units_rank, unitRatio_eq]
  conv_lhs => rw [hsplit, pow_add, ← mul_assoc]
  push_cast
  rfl

/-- The single with the computed rank is nearest, by magnitudes. -/
lemma abs_sub_magnitude_le {units : Nat} {magnitude : ℚ}
    (hunits : magnitude * 2 ^ double.unitExponent = units) {x : FiniteSingle}
    (hrank : x.rank.val = single.nearest units unitRatio) (other : FiniteSingle) :
    |magnitude - x.magnitude| ≤ |magnitude - other.magnitude| ∧
      (other.magnitude ≠ x.magnitude →
        |magnitude - other.magnitude| = |magnitude - x.magnitude| → x.fraction.val % 2 = 0) := by
  have hscale : (0 : ℚ) < 2 ^ double.unitExponent := by positivity
  have hscaled : ∀ y : FiniteSingle, |(units : ℚ) - single.units y.rank * (unitRatio : ℚ)| =
      |magnitude - y.magnitude| * 2 ^ double.unitExponent := fun y => by
    rw [← hunits, ← y.magnitude_mul, ← sub_mul, abs_mul, abs_of_pos hscale]
  obtain ⟨hle, heven⟩ :=
    Format.abs_sub_units_nearest_le units one_lt_precision_single unitRatio_pos other.rank
  rw [← hrank, hscaled, hscaled] at hle heven
  refine ⟨le_of_mul_le_mul_right hle hscale, fun hne heq => ?_⟩
  have hparity : x.rank.val % 2 = 0 := by
    refine heven (fun hsame => hne ?_) (by rw [heq])
    have := other.magnitude_mul
    rw [hsame, ← x.magnitude_mul] at this
    exact mul_right_cancel₀ hscale.ne' this
  have hfields : x.rank.val = x.exponent.val * 2 ^ 23 + x.fraction.val := rfl
  omega

/-! ## Signs -/

lemma abs_signed (negative : Bool) {magnitude : ℚ} (h : 0 ≤ magnitude) :
    |signed negative magnitude| = magnitude := by
  cases negative <;> simp [signed, abs_of_nonneg h]

lemma abs_signed_sub_signed (negative : Bool) (magnitude other : ℚ) :
    |signed negative magnitude - signed negative other| = |magnitude - other| := by
  cases negative
  · rfl
  · simp only [signed, if_true, neg_sub_neg, abs_sub_comm]

lemma abs_signed_sub_signed_not (negative : Bool) {magnitude other : ℚ} (hm : 0 ≤ magnitude)
    (ho : 0 ≤ other) :
    |signed negative magnitude - signed (!negative) other| = magnitude + other := by
  have hsum : signed negative magnitude - signed (!negative) other =
      signed negative (magnitude + other) := by
    cases negative
    · simp [signed]
    · simp only [signed, Bool.not_true, if_true, Bool.false_eq_true, if_false]
      ring
  rw [hsum, abs_signed _ (add_nonneg hm ho)]

/-- **The single with the computed rank is what is to be rounded to.** -/
lemma isNearest_of_rank {units : Nat} {magnitude : ℚ} (hnonneg : 0 ≤ magnitude)
    (hunits : magnitude * 2 ^ double.unitExponent = units) {x : FiniteSingle}
    (hrank : x.rank.val = single.nearest units unitRatio) :
    IsNearest (signed x.negative magnitude) x := by
  have hspec := abs_sub_magnitude_le hunits hrank
  -- a single of the other sign is not nearer than zero is
  obtain ⟨hzero_le, hzero_even⟩ := hspec ⟨x.negative, 0, 0⟩
  rw [FiniteSingle.magnitude_zero, sub_zero, abs_of_nonneg hnonneg] at hzero_le hzero_even
  constructor
  · intro other
    rw [FiniteSingle.value, FiniteSingle.value, abs_signed_sub_signed]
    by_cases hsign : other.negative = x.negative
    · rw [hsign, abs_signed_sub_signed]
      exact (hspec other).1
    · rw [Bool.eq_not.mpr hsign, abs_signed_sub_signed_not _ hnonneg other.magnitude_nonneg]
      linarith [other.magnitude_nonneg]
  · intro other hne heq
    rw [FiniteSingle.value, FiniteSingle.value] at hne heq
    rw [abs_signed_sub_signed] at heq
    by_cases hsign : other.negative = x.negative
    · rw [hsign] at hne heq
      rw [abs_signed_sub_signed] at heq
      exact (hspec other).2 (fun hsame => hne (by rw [hsame])) heq
    · rw [Bool.eq_not.mpr hsign, abs_signed_sub_signed_not _ hnonneg other.magnitude_nonneg] at heq
      have hother : other.magnitude = 0 := by linarith [other.magnitude_nonneg]
      rw [hother, add_zero] at heq
      refine hzero_even (fun hsame => hne ?_) heq
      rw [hother, ← hsame]
      simp [signed]

/-! ## Doubles that are refused -/

lemma units_ranks_single :
    (single.units (single.ranks - 1) + single.units single.ranks) * unitRatio =
      2 * ((2 ^ 128 - 2 ^ 103) * 2 ^ double.unitExponent) := by
  decide +kernel

/-- A finite double is refused from the middle between the greatest single and the power of two behind
it on. -/
lemma ranks_le_nearest_iff {units : Nat} {magnitude : ℚ}
    (hunits : magnitude * 2 ^ double.unitExponent = units) :
    single.ranks ≤ single.nearest units unitRatio ↔ 2 ^ 128 - 2 ^ 103 ≤ magnitude := by
  have hscale : (0 : ℚ) < 2 ^ double.unitExponent := by positivity
  have hbound : (((2 ^ 128 - 2 ^ 103) * 2 ^ double.unitExponent : Nat) : ℚ) =
      (2 ^ 128 - 2 ^ 103) * 2 ^ double.unitExponent := by
    push_cast
    norm_num
  rw [Format.le_nearest_iff one_lt_precision_single unitRatio_pos (by decide) (by decide),
    units_ranks_single, Nat.mul_le_mul_left_iff two_pos, ← Nat.cast_le (α := ℚ), hbound, ← hunits,
    mul_le_mul_iff_left₀ hscale]

/-! ## Results -/

namespace DoubleBits

variable {bits other : UInt64}

/-- The magnitude of a finite double in units. -/
def units (bits : UInt64) : Nat :=
  double.units (exponent bits * 2 ^ 52 + fraction bits)

lemma magnitude_mul (bits : UInt64) :
    magnitude bits * 2 ^ double.unitExponent = units bits :=
  (units_fields bits).symm

lemma toNat_eq_fields (bits : UInt64) :
    bits.toNat = (negative bits).toNat * 2 ^ 63 + (exponent bits * 2 ^ 52 + fraction bits) := by
  have := bits.toNat_lt
  rw [← mod_eq_fields, negative]
  by_cases h : bits.toNat / 2 ^ 63 = 1
  · rw [decide_eq_true h, Bool.toNat_true]
    omega
  · rw [decide_eq_false h, Bool.toNat_false]
    omega

/-- No two bit patterns are those of one finite double. -/
lemma eq_of_ofBits_eq (h : IsFinite other) (heq : Number.ofBits bits = Number.ofBits other) :
    bits = other := by
  obtain ⟨rank, hrank, hof⟩ := exists_ofBits_eq_finite h
  rw [hof] at heq
  by_cases hfinite : IsFinite bits
  · obtain ⟨rank', hrank', hof'⟩ := exists_ofBits_eq_finite hfinite
    obtain ⟨hsign, rfl⟩ := Number.finite.inj (hof'.symm.trans heq)
    refine UInt64.toNat.inj ?_
    rw [toNat_eq_fields bits, toNat_eq_fields other, hsign, ← hrank', ← hrank]
  · rw [ofBits_of_exponent_eq (not_not.mp hfinite)] at heq
    split_ifs at heq

lemma narrow_of_isFinite (h : IsFinite bits) :
    narrow (.ofBits bits) =
      if hlt : single.nearest (units bits) unitRatio < single.ranks then
        some (.finite (negative bits) ⟨_, hlt⟩)
      else none := by
  obtain ⟨rank, hrank, hof⟩ := exists_ofBits_eq_finite h
  rw [hof, narrow, hrank]
  rfl

lemma abs_value (bits : UInt64) : |value bits| = magnitude bits :=
  abs_signed _ (magnitude_nonneg bits)

lemma nearest_lt_ranks_iff (bits : UInt64) :
    single.nearest (units bits) unitRatio < single.ranks ↔ |value bits| < 2 ^ 128 - 2 ^ 103 := by
  rw [← not_le, ranks_le_nearest_iff (magnitude_mul bits), abs_value, not_le]

/-- What a finite double is rounded to, if it is accepted. -/
lemma exists_result (h : IsFinite bits) (hbound : |value bits| < 2 ^ 128 - 2 ^ 103) :
    ∃ (result : UInt64) (x : FiniteSingle),
      roundToSingle? (.ofBits bits) = some (.ofBits result) ∧ IsFinite result ∧
        negative result = negative bits ∧ value result = x.value ∧ x.negative = negative bits ∧
        x.rank.val = single.nearest (units bits) unitRatio := by
  have hlt := (nearest_lt_ranks_iff bits).mpr hbound
  obtain ⟨x, hx⟩ := FiniteSingle.exists_number_eq (negative bits) ⟨_, hlt⟩
  obtain ⟨hsign, hrank⟩ := Number.finite.inj hx
  obtain ⟨rank, hwiden, hunits⟩ := exists_widen_eq (negative bits) ⟨_, hlt⟩
  obtain ⟨result, hfinite, hof⟩ := exists_isFinite (negative bits) rank
  obtain ⟨rank', hrank', hof'⟩ := exists_ofBits_eq_finite hfinite
  obtain ⟨hresult, rfl⟩ := Number.finite.inj (hof'.symm.trans hof)
  refine ⟨result, x, ?_, hfinite, hresult, ?_, hsign, congrArg Fin.val hrank⟩
  · rw [roundToSingle?, narrow_of_isFinite h, dif_pos hlt, Option.map_some, hwiden, hof]
  · have hmagnitude : magnitude result * 2 ^ double.unitExponent =
        x.magnitude * 2 ^ double.unitExponent := by
      rw [magnitude_mul, x.magnitude_mul, hrank, units, ← hrank', hunits]
      push_cast
      rfl
    rw [value, FiniteSingle.value, hresult, hsign,
      mul_right_cancel₀ (by positivity) hmagnitude]

lemma roundToSingle?_of_not_isFinite (h : ¬IsFinite bits) :
    roundToSingle? (.ofBits bits) = some (.ofBits bits) := by
  rw [ofBits_of_exponent_eq (not_not.mp h)]
  split_ifs <;> rfl

lemma roundToSingle?_eq_none_iff (bits : UInt64) :
    roundToSingle? (.ofBits bits) = none ↔ IsFinite bits ∧ 2 ^ 128 - 2 ^ 103 ≤ |value bits| := by
  by_cases h : IsFinite bits
  · rw [← not_lt, ← nearest_lt_ranks_iff, roundToSingle?, Option.map_eq_none_iff,
      narrow_of_isFinite h]
    split_ifs with hlt <;> simp [h, hlt]
  · simp [roundToSingle?_of_not_isFinite h, h]

lemma magnitude_le_of_nearest {x y : FiniteSingle} (h : magnitude bits ≤ magnitude other)
    (hx : x.rank.val = single.nearest (units bits) unitRatio)
    (hy : y.rank.val = single.nearest (units other) unitRatio) : x.magnitude ≤ y.magnitude := by
  have hscale : (0 : ℚ) < 2 ^ double.unitExponent := by positivity
  have hunits : units bits ≤ units other := by
    have := mul_le_mul_of_nonneg_right h hscale.le
    rw [magnitude_mul, magnitude_mul] at this
    exact_mod_cast this
  have hrank : x.rank.val ≤ y.rank.val := by
    rw [hx, hy]
    exact Format.nearest_mono one_lt_precision_single unitRatio_pos hunits
  refine le_of_mul_le_mul_right ?_ hscale
  rw [x.magnitude_mul, y.magnitude_mul]
  have hle := single.units_strictMono.monotone hrank
  exact mul_le_mul_of_nonneg_right (by exact_mod_cast hle) (Nat.cast_nonneg _)

lemma magnitude_eq_zero_of_nearest {x : FiniteSingle} (h : magnitude bits = 0)
    (hx : x.rank.val = single.nearest (units bits) unitRatio) : x.magnitude = 0 := by
  have hle := (abs_sub_magnitude_le (magnitude_mul bits) hx ⟨false, 0, 0⟩).1
  rw [h, FiniteSingle.magnitude_zero, sub_zero, zero_sub, abs_neg, abs_zero] at hle
  exact abs_nonpos_iff.mp hle

lemma value_le_of_nearest {x y : FiniteSingle} (h : value bits ≤ value other)
    (hx : x.rank.val = single.nearest (units bits) unitRatio)
    (hy : y.rank.val = single.nearest (units other) unitRatio)
    (hxsign : x.negative = negative bits) (hysign : y.negative = negative other) :
    x.value ≤ y.value := by
  rw [FiniteSingle.value, FiniteSingle.value]
  rw [value, value, ← hxsign, ← hysign] at h
  have hxnonneg := x.magnitude_nonneg
  have hynonneg := y.magnitude_nonneg
  have hbits := magnitude_nonneg bits
  have hother := magnitude_nonneg other
  cases hxs : x.negative <;> cases hys : y.negative <;>
    simp only [hxs, hys, signed, if_true, Bool.false_eq_true, if_false, neg_le_neg_iff] at h ⊢
  · exact magnitude_le_of_nearest h hx hy
  · have hzero : magnitude bits = 0 := by linarith only [h, hbits, hother]
    have hzero' : magnitude other = 0 := by linarith only [h, hbits, hother]
    rw [magnitude_eq_zero_of_nearest hzero hx, magnitude_eq_zero_of_nearest hzero' hy, neg_zero]
  · linarith only [hxnonneg, hynonneg]
  · exact magnitude_le_of_nearest h hy hx

end DoubleBits

end Claw.Binary

namespace Claw

open Binary Binary.DoubleBits

lemma roundToSingle_eq_ok_iff {value rounded : Number double} :
    roundToSingle value = .ok rounded ↔ roundToSingle? value = some rounded := by
  rw [roundToSingle]
  cases roundToSingle? value <;> simp

lemma roundToSingle_eq_error_iff {value : Number double} {fault : LiteralFault} :
    roundToSingle value = .error fault ↔ roundToSingle? value = none ∧ fault = .overflow value := by
  rw [roundToSingle]
  cases roundToSingle? value <;> simp [eq_comm]

/-- What an accepted double is rounded to is the single with the computed rank. -/
lemma exists_single_of_roundToSingle {bits result : UInt64} (h : IsFinite bits)
    (hresult : roundToSingle (.ofBits bits) = .ok (.ofBits result)) :
    ∃ x : FiniteSingle, value result = x.value ∧ x.negative = negative bits ∧
      x.rank.val = single.nearest (units bits) unitRatio := by
  rw [roundToSingle_eq_ok_iff] at hresult
  have hbound : |value bits| < 2 ^ 128 - 2 ^ 103 := by
    by_contra hge
    rw [(roundToSingle?_eq_none_iff bits).mpr ⟨h, not_lt.mp hge⟩] at hresult
    cases hresult
  obtain ⟨result', x, hok, hfinite, -, hvalue, hsign, hrank⟩ := exists_result h hbound
  obtain rfl := eq_of_ofBits_eq hfinite (Option.some.inj (hresult.symm.trans hok))
  exact ⟨x, hvalue, hsign, hrank⟩

/-- **Rounding to singles is correct.**  Infinities and what is not a number stay as they are.  A
finite double is refused just if it is at least the middle between the greatest single and the power
of two behind it; any other becomes the nearest single, the even one of two, with its sign.  So what
was rounded stays as it is, and finite doubles stay in order. -/
theorem roundToSingle_correct (bits : UInt64) :
    (¬IsFinite bits →
      (Number.ofBits bits = if fraction bits = 0 then .infinite (negative bits) else .nan) ∧
        roundToSingle (.ofBits bits) = .ok (.ofBits bits)) ∧
    (∀ fault, roundToSingle (.ofBits bits) = .error fault ↔
      (IsFinite bits ∧ 2 ^ 128 - 2 ^ 103 ≤ |value bits|) ∧ fault = .overflow (.ofBits bits)) ∧
    (IsFinite bits → |value bits| < 2 ^ 128 - 2 ^ 103 → ∃ (result : UInt64) (x : FiniteSingle),
      roundToSingle (.ofBits bits) = .ok (.ofBits result) ∧ IsFinite result ∧
        negative result = negative bits ∧ x.negative = negative bits ∧ value result = x.value ∧
        IsNearest (value bits) x) ∧
    (∀ rounded, roundToSingle (.ofBits bits) = .ok rounded →
      roundToSingle rounded = .ok rounded) ∧
    ∀ other result result', IsFinite bits → IsFinite other →
      roundToSingle (.ofBits bits) = .ok (.ofBits result) →
      roundToSingle (.ofBits other) = .ok (.ofBits result') →
      value bits ≤ value other → value result ≤ value result' := by
  refine ⟨fun h => ⟨ofBits_of_exponent_eq (not_not.mp h), ?_⟩, fun fault => ?_, fun h hbound => ?_,
    fun rounded h => ?_, fun other result result' h hother hresult hresult' hle => ?_⟩
  · exact roundToSingle_eq_ok_iff.mpr (roundToSingle?_of_not_isFinite h)
  · rw [roundToSingle_eq_error_iff, roundToSingle?_eq_none_iff]
  · obtain ⟨result, x, hok, hfinite, hsign, hvalue, hx, hrank⟩ := exists_result h hbound
    refine ⟨result, x, roundToSingle_eq_ok_iff.mpr hok, hfinite, hsign, hx, hvalue, ?_⟩
    rw [value, ← hx]
    exact isNearest_of_rank (magnitude_nonneg bits) (magnitude_mul bits) hrank
  · rw [roundToSingle_eq_ok_iff] at h ⊢
    exact isSingle_iff.mp (isSingle_of_roundToSingle? h)
  · obtain ⟨x, hvalue, hx, hrank⟩ := exists_single_of_roundToSingle h hresult
    obtain ⟨y, hvalue', hy, hrank'⟩ := exists_single_of_roundToSingle hother hresult'
    rw [hvalue, hvalue']
    exact value_le_of_nearest hle hrank hrank' hx hy

/-- An infinity, the least double that is refused, the one before it, and two doubles in the middle
between singles. -/
theorem roundToSingle_correct_at_bounds :
    roundToSingle (.ofBits 0x7FF0000000000000) = .ok (.infinite false) ∧
    roundToSingle (.ofBits 0x47EFFFFFF0000000) = .error (.overflow (.ofBits 0x47EFFFFFF0000000)) ∧
    (∃ x : FiniteSingle, x.negative = false ∧ IsNearest (value 0x47EFFFFFEFFFFFFF) x) ∧
    roundToSingle (.ofBits 0x3FF0000000000000) = .ok (.ofBits 0x3FF0000000000000) ∧
    value 0x3FF0000000000000 ≤ value 0x3FF0000040000000 := by
  have hlow : roundToSingle (.ofBits 0x3FF0000010000000) = .ok (.ofBits 0x3FF0000000000000) := by
    decide +kernel
  have hhigh : roundToSingle (.ofBits 0x3FF0000030000000) = .ok (.ofBits 0x3FF0000040000000) := by
    decide +kernel
  refine ⟨?_, ?_, ?_, ?_, ?_⟩
  · obtain ⟨hinfinite, hok⟩ := (roundToSingle_correct 0x7FF0000000000000).1 (by decide)
    rw [hok, hinfinite]
    decide
  · refine ((roundToSingle_correct 0x47EFFFFFF0000000).2.1 _).mpr ⟨⟨by decide, ?_⟩, rfl⟩
    rw [value_of_fields _ false 1150 0xFFFFFF0000000 (by decide) (by decide)]
    norm_num [signed]
  · have hbound : |value 0x47EFFFFFEFFFFFFF| < 2 ^ 128 - 2 ^ 103 := by
      rw [value_of_fields _ false 1150 0xFFFFFEFFFFFFF (by decide) (by decide)]
      norm_num [signed]
    obtain ⟨_, x, -, -, -, hsign, -, hnearest⟩ :=
      (roundToSingle_correct 0x47EFFFFFEFFFFFFF).2.2.1 (by decide) hbound
    exact ⟨x, hsign, hnearest⟩
  · exact (roundToSingle_correct 0x3FF0000010000000).2.2.2.1 _ hlow
  · refine (roundToSingle_correct 0x3FF0000010000000).2.2.2.2 0x3FF0000030000000 _ _ (by decide)
      (by decide) hlow hhigh ?_
    rw [value_of_fields 0x3FF0000010000000 false 1023 0x10000000 (by decide) (by decide),
      value_of_fields 0x3FF0000030000000 false 1023 0x30000000 (by decide) (by decide)]
    norm_num [signed]

end Claw
