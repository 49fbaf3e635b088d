import HomeHub.Color.Scalar
import Mathlib.Data.Rat.Floor
import Mathlib.Tactic.Linarith
import Mathlib.Tactic.Positivity

/-!
The exact reading of colour formulas. Up to a limit, a number is cut to its floor, and to zero if it
is negative; the range of 64-bit integers is not felt as long as the limit is within it.
-/

namespace HomeHub.Scalar

@[simp]
theorem ofNat_eq (n : ℕ)
    : (ofNat n : ℚ) = n := by
  rfl

@[simp]
theorem isZero_iff {x : ℚ}
    : isZero x = true ↔ x = 0 := by
  apply beq_iff_eq

@[simp]
theorem lt_iff {x y : ℚ}
    : lt x y = true ↔ x < y := by
  apply decide_eq_true_iff

@[simp]
theorem floor_eq (x : ℚ)
    : floor x = ⌊x⌋ := by
  rfl

theorem clamp_eq {low high : ℚ} (h : low ≤ high) (x : ℚ)
    : clamp x low high = max low (min x high) := by
  unfold clamp
  simp only [lt_iff]
  split
  . next hlow =>
    rw [min_eq_left (by linarith)]
    rw [max_eq_left hlow.le]
  . next hlow =>
    split
    . next hhigh =>
      rw [min_eq_right hhigh.le]
      rw [max_eq_right h]
    . next hhigh =>
      rw [min_eq_left (le_of_not_gt hhigh)]
      rw [max_eq_right (le_of_not_gt hlow)]

theorem toInt_ofIntClamp (n : ℤ)
    : (Int64.ofIntClamp n).toInt = max (-2 ^ 63) (min n (2 ^ 63 - 1)) := by
  have hleast : Int64.minValue.toInt = -2 ^ 63 := by rfl
  have hgreatest : Int64.maxValue.toInt = 2 ^ 63 - 1 := by rfl
  unfold Int64.ofIntClamp
  split
  . split
    . rw [Int64.toInt_ofIntLE]
      omega
    . omega
  . omega

theorem truncate_eq (x : ℚ)
    : truncate x = max (-2 ^ 63) (min (x.num.tdiv x.den) (2 ^ 63 - 1)) := by
  apply toInt_ofIntClamp

theorem truncate_intCast {n : ℤ} (hlow : -2 ^ 63 ≤ n) (hhigh : n < 2 ^ 63)
    : truncate (n : ℚ) = n := by
  rw [truncate_eq]
  rw [Rat.num_intCast, Rat.den_intCast]
  rw [Nat.cast_one, Int.tdiv_one]
  omega

theorem toNat_tdiv (x : ℚ)
    : (x.num.tdiv x.den).toNat = ⌊x⌋₊ := by
  rcases le_total 0 x with hx | hx
  . rw [Int.tdiv_eq_ediv_of_nonneg (Rat.num_nonneg.2 hx)]
    rw [← Rat.floor_def']
    rw [Int.floor_toNat]
  . have hneg : 0 ≤ (-x.num).tdiv x.den := by
      apply Int.tdiv_nonneg
      . exact neg_nonneg.2 (Rat.num_nonpos.2 hx)
      . positivity
    rw [Nat.floor_of_nonpos hx]
    rw [Int.neg_tdiv] at hneg
    omega

theorem truncateUpTo_eq {limit : ℕ} (hlimit : limit < 2 ^ 63) (x : ℚ)
    : truncateUpTo limit x = min ⌊x⌋₊ limit := by
  unfold truncateUpTo
  rw [truncate_eq]
  rw [← toNat_tdiv]
  omega

end HomeHub.Scalar
