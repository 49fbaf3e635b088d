import HomeHub.Gateway.Scale
import HomeHub.Proofs.Color.Scalar
import Mathlib.Data.UInt
import Mathlib.Tactic.NormNum
import Mathlib.Tactic.Ring

/-!
The scale of the gateway's chromaticities, read exactly. A step of the scale stands for what is at
most 0.56 of a step below it and less than 0.44 above it; what is beyond an end of the scale is
taken to be that end.
-/

namespace HomeHub.Gateway

theorem toNat_normalize (x : ℚ)
    : (normalize x).toNat = min ⌊x * 65535 + 56 / 100⌋₊ 65535 := by
  have hsize : UInt32.size = 4294967296 := by rfl
  have hlimit : min (UInt32.size - 1) 65535 = 65535 := by omega
  unfold normalize xyScale
  rw [Scalar.truncateUpTo_eq (by omega)]
  rw [UInt32.toNat_ofNat_of_lt' (by omega)]
  rw [min_assoc, hlimit]
  rfl

theorem denormalize_eq (n : UInt32)
    : (denormalize n : ℚ) = n.toNat / 65535 := by
  rfl

theorem normalize_le (x : ℚ)
    : normalize x ≤ 65535 := by
  rw [UInt32.le_iff_toNat_le, toNat_normalize]
  apply min_le_right

theorem normalize_mono {x y : ℚ} (h : x ≤ y)
    : normalize x ≤ normalize y := by
  rw [UInt32.le_iff_toNat_le, toNat_normalize, toNat_normalize]
  apply min_le_min_right
  apply Nat.floor_mono
  linarith

theorem abs_denormalize_normalize_sub_le {x : ℚ} (hlow : 0 ≤ x) (hhigh : x ≤ 1)
    : |denormalize (normalize x) - x| ≤ 56 / 100 / 65535 := by
  have hfloor : (⌊x * 65535 + 56 / 100⌋₊ : ℚ) ≤ x * 65535 + 56 / 100 := by
    apply Nat.floor_le
    linarith
  have hnext : x * 65535 + 56 / 100 < ⌊x * 65535 + 56 / 100⌋₊ + 1 := by
    apply Nat.lt_floor_add_one
  have hsteps : |((normalize x).toNat : ℚ) - x * 65535| ≤ 56 / 100 := by
    rw [toNat_normalize]
    push_cast
    rw [abs_le]
    rcases min_cases (⌊x * 65535 + 56 / 100⌋₊ : ℚ) 65535 with ⟨heq, _⟩ | ⟨heq, _⟩
    . rw [heq]
      constructor
      . linarith
      . linarith
    . rw [heq]
      constructor
      . linarith
      . linarith
  have hscale : denormalize (normalize x) - x
      = (((normalize x).toNat : ℚ) - x * 65535) / 65535 := by
    rw [denormalize_eq]
    ring
  rw [hscale]
  rw [abs_div, abs_of_pos (by norm_num : (0 : ℚ) < 65535)]
  linarith

theorem normalize_denormalize (n : UInt32)
    : normalize (denormalize n : ℚ) = min n 65535 := by
  have hsteps : (n.toNat : ℚ) / 65535 * 65535 + 56 / 100 = n.toNat + 56 / 100 := by ring
  have hfloor : ⌊(n.toNat : ℚ) + 56 / 100⌋₊ = n.toNat := by
    rw [Nat.floor_eq_iff (by positivity)]
    constructor
    . linarith
    . linarith
  rw [← UInt32.toNat_inj]
  rw [toNat_normalize, denormalize_eq]
  rw [hsteps, hfloor]
  rw [UInt32.toNat_min]
  rfl

theorem xy_scales_agree
    : (∀ xy : ℚ × ℚ, (normalizeXy xy).1 ≤ 65535 ∧ (normalizeXy xy).2 ≤ 65535)
      ∧ (∀ xy more : ℚ × ℚ, xy.1 ≤ more.1 → (normalizeXy xy).1 ≤ (normalizeXy more).1)
      ∧ (∀ xy more : ℚ × ℚ, xy.2 ≤ more.2 → (normalizeXy xy).2 ≤ (normalizeXy more).2)
      ∧ (∀ xy : ℚ × ℚ, 0 ≤ xy.1 → xy.1 ≤ 1 → 0 ≤ xy.2 → xy.2 ≤ 1 →
        |(denormalizeXy (normalizeXy xy)).1 - xy.1| ≤ 1 / 65535
          ∧ |(denormalizeXy (normalizeXy xy)).2 - xy.2| ≤ 1 / 65535)
      ∧ ∀ steps : UInt32 × UInt32,
        normalizeXy (denormalizeXy steps : ℚ × ℚ) = (min steps.1 65535, min steps.2 65535) := by
  have hstep : (56 / 100 / 65535 : ℚ) ≤ 1 / 65535 := by norm_num
  refine ⟨?_, ?_, ?_, ?_, ?_⟩
  . exact fun xy => ⟨normalize_le xy.1, normalize_le xy.2⟩
  . exact fun xy more h => normalize_mono h
  . exact fun xy more h => normalize_mono h
  . intro xy hx hx' hy hy'
    constructor
    . exact (abs_denormalize_normalize_sub_le hx hx').trans hstep
    . exact (abs_denormalize_normalize_sub_le hy hy').trans hstep
  . intro steps
    apply Prod.ext
    . exact normalize_denormalize steps.1
    . exact normalize_denormalize steps.2

theorem xy_scales_agree_outside_unit
    : ((-1 / 10 : ℚ) ≤ 123456 / 1000000 ∧ (654321 / 1000000 : ℚ) ≤ 3 / 2)
        ∧ ((0 : ℚ) ≤ 123456 / 1000000 ∧ (123456 / 1000000 : ℚ) ≤ 1)
        ∧ ((0 : ℚ) ≤ 654321 / 1000000 ∧ (654321 / 1000000 : ℚ) ≤ 1)
        ∧ normalizeXy (-1 / 10, (3 / 2 : ℚ)) = (0, 65535)
        ∧ normalizeXy (123456 / 1000000, (654321 / 1000000 : ℚ)) = (8091, 42881)
        ∧ (0 : UInt32) ≤ 8091 ∧ (42881 : UInt32) ≤ 65535
        ∧ |(8091 / 65535 : ℚ) - 123456 / 1000000| ≤ 1 / 65535
        ∧ |(42881 / 65535 : ℚ) - 654321 / 1000000| ≤ 1 / 65535
        ∧ normalizeXy (denormalizeXy (70000, 32768) : ℚ × ℚ) = (65535, 32768) := by
  have hbeyond : normalizeXy (-1 / 10, (3 / 2 : ℚ)) = (0, 65535) := by decide +kernel
  have hbetween : normalizeXy (123456 / 1000000, (654321 / 1000000 : ℚ)) = (8091, 42881) := by
    decide +kernel
  have hmore : (-1 / 10 : ℚ) ≤ 123456 / 1000000 ∧ (654321 / 1000000 : ℚ) ≤ 3 / 2 := by norm_num
  have hx : (0 : ℚ) ≤ 123456 / 1000000 ∧ (123456 / 1000000 : ℚ) ≤ 1 := by norm_num
  have hy : (0 : ℚ) ≤ 654321 / 1000000 ∧ (654321 / 1000000 : ℚ) ≤ 1 := by norm_num
  obtain ⟨_, hmonoX, hmonoY, hback, hsteps⟩ := xy_scales_agree
  have hfirst := hmonoX (-1 / 10, 3 / 2) (123456 / 1000000, 654321 / 1000000) hmore.1
  have hsecond := hmonoY (123456 / 1000000, 654321 / 1000000) (-1 / 10, 3 / 2) hmore.2
  obtain ⟨hnearX, hnearY⟩ := hback (123456 / 1000000, 654321 / 1000000) hx.1 hx.2 hy.1 hy.2
  rw [hbeyond, hbetween] at hfirst hsecond
  rw [hbetween] at hnearX hnearY
  exact ⟨hmore, hx, hy, hbeyond, hbetween, hfirst, hsecond, hnearX, hnearY, hsteps (70000, 32768)⟩

end HomeHub.Gateway
