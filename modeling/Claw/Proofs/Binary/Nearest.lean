import Claw.Binary.Rounding
import Mathlib.Order.Monotone.Basic
import Mathlib.Tactic.Linarith
import Mathlib.Tactic.Ring

/-!
# Rounding to nearest, specified

The rounding of a quotient is computed from the binary order of magnitude of the quotient.  What it
computes is said here without that detour: the rank of a quotient is at most `rank` just if the
quotient is below the middle between the magnitudes of `rank` and `rank + 1`, or in the middle and
`rank` is even.  Everything that is proved about rounding elsewhere follows from this one
equivalence, `Format.nearest_le_iff`.

* `Format.units_add`: the magnitudes of the ranks in one stretch of the scale;
* `Format.units_strictMono`: magnitudes increase with their ranks;
* `halfEven_le_iff`: the equivalence for natural numbers;
* `Format.nearest_units`: a magnitude of the format is its own rounding;
* `Format.le_nearest_iff`: where the rounding reaches an even rank.

A format has at least two significant bits here.  With a single bit every significand is odd, and a
tie between two of them is not a tie between an even rank and an odd one.
-/

namespace Claw.Binary

/-! ## Natural numbers -/

/-- **Ties go to the even number.** The natural number nearest to a quotient is at most `k` just if
the quotient is below the middle between `k` and `k + 1`, or in the middle and `k` is even. -/
lemma halfEven_le_iff {num den k : Nat} (hden : 0 < den) :
    halfEven num den ≤ k ↔
      2 * num < (2 * k + 1) * den ∨ 2 * num = (2 * k + 1) * den ∧ k % 2 = 0 := by
  have hnum : den * (num / den) + num % den = num := Nat.div_add_mod num den
  have hrest : num % den < den := Nat.mod_lt _ hden
  unfold halfEven
  generalize num / den = floor at *
  generalize num % den = rest at *
  subst hnum
  dsimp only
  rcases Nat.lt_trichotomy floor k with hlt | rfl | hgt
  · -- the quotient is below the next natural number, which is at most `k`
    have hmul : (floor + 1) * den ≤ k * den := Nat.mul_le_mul_right _ hlt
    refine iff_of_true (by split_ifs <;> omega) (.inl ?_)
    nlinarith only [hmul, hrest, hden]
  · have hdouble : 2 * (den * floor + rest) = 2 * floor * den + 2 * rest := by ring
    have hmiddle : (2 * floor + 1) * den = 2 * floor * den + den := by ring
    rw [hdouble, hmiddle]
    split_ifs <;> omega
  · have hmul : (k + 1) * den ≤ floor * den := Nat.mul_le_mul_right _ hgt
    refine iff_of_false (by split_ifs <;> omega) ?_
    rintro (h | ⟨h, -⟩) <;> nlinarith only [hmul, h, hden]

lemma halfEven_le {num den k : Nat} (hden : 0 < den) (h : num ≤ k * den) : halfEven num den ≤ k := by
  rw [halfEven_le_iff hden]
  exact .inl (by nlinarith only [h, hden])

lemma le_halfEven {num den k : Nat} (hden : 0 < den) (h : k * den ≤ num) :
    k ≤ halfEven num den := by
  cases k with
  | zero => exact Nat.zero_le _
  | succ k =>
    rw [Nat.succ_le_iff, ← not_le, halfEven_le_iff hden]
    rintro (hlt | ⟨heq, -⟩)
    · nlinarith only [hlt, h, hden]
    · nlinarith only [heq, h, hden]

namespace Format

variable {f : Format}

/-! ## The scale -/

lemma binade_pos (f : Format) : 0 < f.binade :=
  Nat.two_pow_pos _

lemma binade_even (hbits : 1 < f.precision) : f.binade % 2 = 0 := by
  obtain ⟨k, hk⟩ := Nat.exists_eq_add_of_lt hbits
  have hpow : f.binade = 2 ^ k * 2 := by
    rw [binade, show f.precision - 1 = k + 1 by omega, Nat.pow_eq, pow_succ]
  omega

/-- **A stretch of the scale.** After `s` doublings the distance of neighbours is `2 ^ s`, up to
where it doubles again.  At the start of the scale the stretch begins at zero. -/
lemma units_add {s k : Nat} (hlow : s = 0 ∨ f.binade ≤ k) (hhigh : k ≤ 2 * f.binade) :
    f.units (s * f.binade + k) = k * 2 ^ s := by
  have hpos := f.binade_pos
  by_cases hstart : s * f.binade + k < f.binade
  · have hzero : s = 0 := by
      rcases hlow with hzero | hlow <;> omega
    subst hzero
    rw [units, if_pos hstart]
    simp
  have hk : f.binade ≤ k := by
    rcases hlow with rfl | hlow <;> omega
  rw [units, if_neg hstart]
  rcases Nat.lt_or_ge k (2 * f.binade) with hlt | hge
  · -- an inner rank of the stretch
    obtain ⟨j, rfl⟩ := Nat.exists_eq_add_of_le hk
    have hmod : (s * f.binade + (f.binade + j)) % f.binade = j := by
      rw [← Nat.add_assoc, ← Nat.succ_mul, Nat.mul_add_mod_of_lt (by omega)]
    have hdiv : (s * f.binade + (f.binade + j)) / f.binade = s + 1 := by
      rw [← Nat.add_assoc, ← Nat.succ_mul, Nat.mul_comm, Nat.mul_add_div hpos,
        Nat.div_eq_of_lt (by omega), Nat.add_zero]
    rw [hmod, hdiv]
    rfl
  · -- the last rank of the stretch is the first of the next
    obtain rfl : k = 2 * f.binade := by omega
    have hmul : s * f.binade + 2 * f.binade = (s + 2) * f.binade := by ring
    rw [hmul, Nat.mul_mod_left, Nat.mul_div_cancel _ hpos, Nat.pow_eq,
      show s + 2 - 1 = s + 1 by omega]
    ring

/-- Every rank lies in a stretch of the scale. -/
lemma exists_stretch (f : Format) (rank : Nat) :
    ∃ s k, rank = s * f.binade + k ∧ (s = 0 ∨ f.binade ≤ k) ∧ k < 2 * f.binade := by
  have hpos := f.binade_pos
  rcases Nat.lt_or_ge rank f.binade with hlt | hge
  · exact ⟨0, rank, by omega, .inl rfl, by omega⟩
  · refine ⟨rank / f.binade - 1, rank % f.binade + f.binade, ?_, .inr (by omega), ?_⟩
    · have hone : 1 ≤ rank / f.binade := (Nat.one_le_div_iff hpos).mpr hge
      calc rank = rank / f.binade * f.binade + rank % f.binade := (Nat.div_add_mod' _ _).symm
        _ = (rank / f.binade - 1) * f.binade + (rank % f.binade + f.binade) := by
          obtain ⟨q, hq⟩ := Nat.exists_eq_add_of_le hone
          rw [hq, Nat.add_sub_cancel_left]
          ring
    · have := Nat.mod_lt rank hpos
      omega

/-- Magnitudes increase with their ranks. -/
lemma units_strictMono (f : Format) : StrictMono f.units := by
  refine strictMono_nat_of_lt_succ fun rank => ?_
  obtain ⟨s, k, rfl, hlow, hhigh⟩ := f.exists_stretch rank
  have hnext : s = 0 ∨ f.binade ≤ k + 1 := by omega
  rw [units_add hlow hhigh.le, Nat.add_assoc, units_add hnext hhigh]
  exact Nat.mul_lt_mul_of_pos_right (Nat.lt_succ_self k) (Nat.two_pow_pos s)

/-- A significand that fits the precision is, with any number of doublings, the magnitude of a
rank. -/
lemma exists_units_eq (f : Format) {significand : Nat} (h : significand < 2 * f.binade)
    (doublings : Nat) : ∃ rank, f.units rank = significand * 2 ^ doublings := by
  induction doublings generalizing significand with
  | zero =>
    refine ⟨significand, ?_⟩
    have := units_add (f := f) (s := 0) (.inl rfl) h.le
    simpa using this
  | succ n ih =>
    rcases Nat.lt_or_ge significand f.binade with hlt | hge
    · -- there is room to double the significand itself
      have hroom : 2 * significand < 2 * f.binade := by omega
      obtain ⟨rank, hrank⟩ := ih hroom
      exact ⟨rank, by rw [hrank]; ring⟩
    · exact ⟨(n + 1) * f.binade + significand, units_add (.inr hge) h.le⟩

/-! ## Ranks -/

/-- The equivalence within the stretch that the quotient lies in. -/
lemma add_halfEven_le_iff {num den s : Nat} (rank : Nat) (hbits : 1 < f.precision)
    (hden : 0 < den) (hlow : s = 0 ∨ f.binade * 2 ^ s * den ≤ num)
    (hhigh : num < 2 * f.binade * 2 ^ s * den) :
    s * f.binade + halfEven num (den * 2 ^ s) ≤ rank ↔
      2 * num < (f.units rank + f.units (rank + 1)) * den ∨
        2 * num = (f.units rank + f.units (rank + 1)) * den ∧ rank % 2 = 0 := by
  have hscaled : 0 < den * 2 ^ s := Nat.mul_pos hden (Nat.two_pow_pos s)
  have hpos := f.binade_pos
  have hmono := f.units_strictMono
  by_cases hbelow : s ≠ 0 ∧ rank < s * f.binade + f.binade
  · -- the quotient is at least the first magnitude of the stretch
    obtain ⟨hs, hrank⟩ := hbelow
    replace hlow := hlow.resolve_left hs
    have hfirst : f.binade ≤ halfEven num (den * 2 ^ s) :=
      le_halfEven hscaled (by nlinarith only [hlow])
    have hsum : f.units rank + f.units (rank + 1) < 2 * (f.binade * 2 ^ s) := by
      have hstart := f.units_add (s := s) (k := f.binade) (.inr le_rfl) (by omega)
      have hlt : f.units rank < _ := hmono hrank
      have hle : f.units (rank + 1) ≤ _ := hmono.monotone (Nat.succ_le_of_lt hrank)
      omega
    have hmul := Nat.mul_lt_mul_of_pos_right hsum hden
    refine iff_of_false (by omega) ?_
    rintro (h | ⟨h, -⟩) <;> nlinarith only [h, hmul, hlow]
  rcases Nat.lt_or_ge rank (s * f.binade + 2 * f.binade) with hinside | habove
  · -- in the stretch the equivalence is the one for significands
    obtain ⟨k, rfl⟩ : ∃ k, rank = s * f.binade + k := by
      refine Nat.exists_eq_add_of_le ?_
      rcases Nat.eq_zero_or_pos s with rfl | hs <;> omega
    have hk : s = 0 ∨ f.binade ≤ k := by omega
    have hparity : (s * f.binade + k) % 2 = k % 2 := by
      rw [Nat.add_mod, Nat.mul_mod, binade_even hbits]
      simp
    have hmiddle : (k * 2 ^ s + (k + 1) * 2 ^ s) * den = (2 * k + 1) * (den * 2 ^ s) := by ring
    rw [Nat.add_le_add_iff_left, halfEven_le_iff hscaled, Nat.add_assoc,
      units_add hk (by omega), units_add (by omega) (by omega), hmiddle, hparity]
  · -- the quotient is below the end of the stretch
    have hlast : halfEven num (den * 2 ^ s) ≤ 2 * f.binade :=
      halfEven_le hscaled (by nlinarith only [hhigh])
    have hsum : 2 * (2 * f.binade * 2 ^ s) ≤ f.units rank + f.units (rank + 1) := by
      have hend := f.units_add (s := s) (k := 2 * f.binade) (by omega) le_rfl
      have hle : _ ≤ f.units rank := hmono.monotone habove
      have hlt : _ < f.units (rank + 1) := hmono (Nat.lt_succ_self rank)
      omega
    have hmul := Nat.mul_le_mul_right den hsum
    exact iff_of_true (by omega) (.inl (by nlinarith only [hmul, hhigh]))

/-- The shift takes the binary order of magnitude of a number to that of the significands. -/
lemma shift_bounds {whole : Nat} (hbits : 1 < f.precision) (h : f.binade ≤ whole) :
    f.binade * 2 ^ (whole.log2 + 1 - f.precision) ≤ whole ∧
      whole < 2 * f.binade * 2 ^ (whole.log2 + 1 - f.precision) := by
  have hwhole : whole ≠ 0 := (f.binade_pos.trans_le h).ne'
  obtain ⟨s, hs⟩ : ∃ s, whole.log2 = s + (f.precision - 1) := by
    refine Nat.exists_eq_add_of_le' ?_
    rw [Nat.le_log2 hwhole]
    exact h
  have hshift : whole.log2 + 1 - f.precision = s := by omega
  have hbinade : 2 ^ (s + (f.precision - 1)) = f.binade * 2 ^ s := by
    rw [pow_add, Nat.mul_comm, binade, Nat.pow_eq]
  have hlow := Nat.log2_self_le hwhole
  have hhigh := Nat.lt_log2_self (n := whole)
  rw [pow_succ, hs, hbinade] at hhigh
  rw [hs, hbinade] at hlow
  rw [hshift]
  exact ⟨hlow, hhigh.trans_eq (by ring)⟩

/-- **Rounding to nearest.** The rank nearest to a quotient is at most `rank` just if the quotient
is below the middle between the magnitudes of `rank` and `rank + 1`, or in the middle and `rank` is
even. -/
theorem nearest_le_iff {num den rank : Nat} (hbits : 1 < f.precision) (hden : 0 < den) :
    f.nearest num den ≤ rank ↔
      2 * num < (f.units rank + f.units (rank + 1)) * den ∨
        2 * num = (f.units rank + f.units (rank + 1)) * den ∧ rank % 2 = 0 := by
  have hlt : num < (num / den + 1) * den := by
    rw [Nat.mul_comm]
    exact Nat.lt_mul_div_succ num hden
  have hle : num / den * den ≤ num := Nat.div_mul_le_self num den
  unfold nearest
  dsimp only
  split_ifs with hstart
  · have hhigh : num < 2 * f.binade * 2 ^ 0 * den := by nlinarith only [hlt, hstart, hden]
    have h := add_halfEven_le_iff (s := 0) rank hbits hden (.inl rfl) hhigh
    simpa using h
  · obtain ⟨hlow, hhigh⟩ := shift_bounds hbits (not_lt.mp hstart)
    refine add_halfEven_le_iff rank hbits hden (.inr ?_) ?_
    · exact (Nat.mul_le_mul_right den hlow).trans hle
    · exact hlt.trans_le (Nat.mul_le_mul_right den hhigh)

/-- A magnitude of the format is its own rounding. -/
lemma nearest_units {den : Nat} (hbits : 1 < f.precision) (hden : 0 < den) (rank : Nat) :
    f.nearest (f.units rank * den) den = rank := by
  have hmono := f.units_strictMono
  refine le_antisymm ?_ ?_
  · rw [nearest_le_iff hbits hden]
    have hlt := Nat.mul_lt_mul_of_pos_right (hmono (Nat.lt_succ_self rank)) hden
    exact .inl (by nlinarith only [hlt])
  · by_contra hlt
    obtain ⟨below, rfl⟩ := Nat.exists_eq_add_of_lt (Nat.zero_lt_of_lt (not_le.mp hlt))
    rw [not_le, Nat.lt_succ_iff, Nat.zero_add, nearest_le_iff hbits hden] at hlt
    have hmul := Nat.mul_lt_mul_of_pos_right (hmono (Nat.lt_succ_self below)) hden
    rcases hlt with h | ⟨h, -⟩ <;> nlinarith only [h, hmul]

/-- **Reaching an even rank.** The rounding of a quotient reaches an even rank as soon as the
quotient is in the middle between the magnitude before and that of the rank. -/
lemma le_nearest_iff {num den rank : Nat} (hbits : 1 < f.precision) (hden : 0 < den)
    (heven : rank % 2 = 0) (hpos : 0 < rank) :
    rank ≤ f.nearest num den ↔ (f.units (rank - 1) + f.units rank) * den ≤ 2 * num := by
  obtain ⟨below, rfl⟩ := Nat.exists_eq_add_of_lt hpos
  have hodd : below % 2 ≠ 0 := by omega
  rw [Nat.zero_add, Nat.add_sub_cancel, ← not_lt, Nat.lt_succ_iff, nearest_le_iff hbits hden]
  simp only [hodd, and_false, or_false, not_lt]

end Format

end Claw.Binary
