import Claw.Proofs.Binary.Nearest

/-!
# Singles among the doubles

Every single is a double, and a double that is a single is rounded to itself.

* `IsSingle`: a double is a single, said of magnitudes alone and without rounding;
* `exists_widen_eq`: a single is widened to the double of the same sign and the same magnitude;
* `narrow_widen`: narrowing gives the single back;
* `isSingle_iff`: the singles are the doubles that `roundToSingle?` leaves as they are;
* `roundToSingle?_cases`: what it gives for any double.
-/

namespace Claw.Binary

lemma one_lt_precision_double : 1 < double.precision := by decide

lemma one_lt_precision_single : 1 < single.precision := by decide

lemma unitRatio_eq : unitRatio = 2 ^ (double.unitExponent - single.unitExponent) := by
  unfold unitRatio
  generalize double.unitExponent - single.unitExponent = d
  rfl

lemma unitRatio_pos : 0 < unitRatio := by
  rw [unitRatio_eq]
  exact Nat.two_pow_pos _

/-- A double is a single: it is not finite, or its magnitude is the magnitude of a single. -/
def IsSingle : Number double → Prop
  | .finite _ rank => ∃ rank' : Fin single.ranks, double.units rank = single.units rank' * unitRatio
  | _ => True

/-- The magnitude of every single is that of a double. -/
lemma exists_units_eq_single (rank : Fin single.ranks) :
    ∃ rank' : Fin double.ranks, double.units rank' = single.units rank * unitRatio := by
  obtain ⟨s, k, hrank, hlow, hhigh⟩ := single.exists_stretch rank
  have hbinade : 2 * single.binade ≤ 2 * double.binade := by decide
  obtain ⟨rank', hrank'⟩ := double.exists_units_eq (hhigh.trans_le hbinade)
    (s + (double.unitExponent - single.unitExponent))
  have hunits : double.units rank' = single.units rank * unitRatio := by
    rw [hrank', hrank, Format.units_add hlow hhigh.le, unitRatio_eq, pow_add, Nat.mul_assoc]
  -- the greatest single is far below the greatest double
  have hfinite : double.units rank' < double.units double.ranks := by
    calc double.units rank' = single.units rank * unitRatio := hunits
      _ ≤ single.units single.ranks * unitRatio :=
        Nat.mul_le_mul_right _ (single.units_strictMono.monotone rank.isLt.le)
      _ < double.units double.ranks := by decide +kernel
  exact ⟨⟨rank', double.units_strictMono.lt_iff_lt.mp hfinite⟩, hunits⟩

lemma Number.ofRank_of_lt {f : Format} (negative : Bool) {rank : Nat} (h : rank < f.ranks) :
    (Number.ofRank negative rank : Number f) = .finite negative ⟨rank, h⟩ :=
  dif_pos h

lemma Number.ofRank_of_ge {f : Format} (negative : Bool) {rank : Nat} (h : f.ranks ≤ rank) :
    (Number.ofRank negative rank : Number f) = .infinite negative :=
  dif_neg (Nat.not_lt.mpr h)

/-- Widening keeps sign and magnitude. -/
lemma exists_widen_eq (negative : Bool) (rank : Fin single.ranks) :
    ∃ rank' : Fin double.ranks, widen (.finite negative rank) = .finite negative rank' ∧
      double.units rank' = single.units rank * unitRatio := by
  obtain ⟨rank', hunits⟩ := exists_units_eq_single rank
  refine ⟨rank', ?_, hunits⟩
  have hnearest : double.nearest (single.units rank * unitRatio) 1 = rank' := by
    have := Format.nearest_units one_lt_precision_double Nat.one_pos rank'.val
    rwa [Nat.mul_one, hunits] at this
  rw [widen, hnearest, Number.ofRank_of_lt negative rank'.isLt]

/-- Narrowing a double with the magnitude of a single keeps sign and magnitude. -/
lemma narrow_finite {rank : Fin double.ranks} {rank' : Fin single.ranks} (negative : Bool)
    (h : double.units rank = single.units rank' * unitRatio) :
    narrow (.finite negative rank) = some (.finite negative rank') := by
  have hnearest : single.nearest (double.units rank) unitRatio = rank' := by
    rw [h, Format.nearest_units one_lt_precision_single unitRatio_pos]
  simp only [narrow, hnearest, rank'.isLt, dite_true, Fin.eta]

lemma narrow_widen (x : Number single) : narrow (widen x) = some x := by
  cases x with
  | nan => rfl
  | infinite negative => rfl
  | finite negative rank =>
    obtain ⟨rank', hwiden, hunits⟩ := exists_widen_eq negative rank
    rw [hwiden, narrow_finite negative hunits]

lemma isSingle_widen (x : Number single) : IsSingle (widen x) := by
  cases x with
  | nan => trivial
  | infinite negative => trivial
  | finite negative rank =>
    obtain ⟨rank', hwiden, hunits⟩ := exists_widen_eq negative rank
    rw [hwiden]
    exact ⟨rank, hunits⟩

lemma isSingle_of_roundToSingle? {x y : Number double} (h : roundToSingle? x = some y) :
    IsSingle y := by
  obtain ⟨narrowed, -, rfl⟩ := Option.map_eq_some_iff.mp h
  exact isSingle_widen narrowed

/-- **The singles are what rounding leaves alone.** -/
theorem isSingle_iff {x : Number double} : IsSingle x ↔ roundToSingle? x = some x := by
  refine ⟨fun h => ?_, isSingle_of_roundToSingle?⟩
  cases x with
  | nan => rfl
  | infinite negative => rfl
  | finite negative rank =>
    obtain ⟨rank', hunits⟩ := h
    obtain ⟨rank'', hwiden, hunits'⟩ := exists_widen_eq negative rank'
    have hsame : rank'' = rank :=
      Fin.ext (double.units_strictMono.injective (hunits'.trans hunits.symm))
    rw [roundToSingle?, narrow_finite negative hunits, Option.map_some, hwiden, hsame]

/-- Rounding to a single keeps the sign of a finite double, and leaves the others alone. -/
lemma roundToSingle?_cases {x y : Number double} (h : roundToSingle? x = some y) :
    x.isFinite = false ∧ y = x ∨
      ∃ negative rank rank', x = .finite negative rank ∧ y = .finite negative rank' := by
  cases x with
  | nan => exact .inl ⟨rfl, (Option.some.inj h).symm⟩
  | infinite negative => exact .inl ⟨rfl, (Option.some.inj h).symm⟩
  | finite negative rank =>
    obtain ⟨narrowed, hnarrow, rfl⟩ := Option.map_eq_some_iff.mp h
    rw [narrow] at hnarrow
    split at hnarrow
    · obtain rfl := Option.some.inj hnarrow
      obtain ⟨rank', hwiden, -⟩ := exists_widen_eq negative _
      exact .inr ⟨negative, rank, rank', rfl, hwiden⟩
    · contradiction

end Claw.Binary
