import HomeHub.Color.Temperature
import Mathlib.Data.UInt

/-!
The two scales of colour temperatures are adjoint: some kelvins are at most what some mireds are if
and only if these mireds are at most what the kelvins are. What is to be said of going from one
scale to the other and back follows from this alone.
-/

namespace HomeHub.Color

structure Adjoint {α β : Type} [LE α] [LE β] [Zero α] [Zero β] (f : α → β) (g : β → α) : Prop where
  zero_le_left : ∀ a : α, 0 ≤ a
  zero_le_right : ∀ b : β, 0 ≤ b
  map_zero_left : f 0 = 0
  map_zero_right : g 0 = 0
  le_iff : ∀ a b, a ≠ 0 → b ≠ 0 → (b ≤ f a ↔ a ≤ g b)

namespace Adjoint

variable {α β : Type} [LE α] [LE β] [Zero α] [Zero β] {f : α → β} {g : β → α}

theorem symm (h : Adjoint f g) : Adjoint g f := by
  constructor
  . exact h.zero_le_right
  . exact h.zero_le_left
  . exact h.map_zero_right
  . exact h.map_zero_left
  . intro b a hb ha
    exact (h.le_iff a b ha hb).symm

variable [Std.IsPartialOrder β] {a a' : α}

theorem le_back (h : Adjoint f g) (ha : a ≠ 0) (hfa : f a ≠ 0) : a ≤ g (f a) := by
  rw [← h.le_iff a (f a) ha hfa]
  apply Std.le_refl

variable [Std.IsPartialOrder α]

theorem antitone (h : Adjoint f g) (ha : a ≠ 0) (hle : a ≤ a') : f a' ≤ f a := by
  by_cases hfa' : f a' = 0
  . rw [hfa']
    apply h.zero_le_right
  . have ha' : a' ≠ 0 := by
      intro hzero
      rw [hzero, h.map_zero_left] at hfa'
      contradiction
    rw [h.le_iff a (f a') ha hfa']
    exact Std.le_trans hle (h.le_back ha' hfa')

theorem there_back_there (h : Adjoint f g) (a : α) : f (g (f a)) = f a := by
  by_cases hfa : f a = 0
  . rw [hfa]
    rw [h.map_zero_right]
    exact h.map_zero_left
  . have ha : a ≠ 0 := by
      intro hzero
      rw [hzero, h.map_zero_left] at hfa
      contradiction
    have hback := h.le_back ha hfa
    have hgfa : g (f a) ≠ 0 := by
      intro hzero
      rw [hzero] at hback
      exact ha (Std.le_antisymm hback (h.zero_le_left a))
    apply Std.le_antisymm
    . exact h.antitone ha hback
    . exact h.symm.le_back hfa hgfa

end Adjoint

theorem toNat_miredToKelvin (mireds : UInt16)
    : (miredToKelvin mireds).toNat = 1000000 / mireds.toNat := by
  unfold miredToKelvin
  split
  . next hzero =>
    rw [hzero]
    rfl
  . rw [UInt32.toNat_div]
    rw [UInt16.toNat_toUInt32]
    rfl

theorem toNat_kelvinToMired (kelvin : UInt32)
    : (kelvinToMired kelvin).toNat = min (1000000 / kelvin.toNat) 65535 := by
  unfold kelvinToMired
  split
  . next hzero =>
    rw [hzero]
    rfl
  . rw [UInt16.toNat_ofNat']
    apply Nat.mod_eq_of_lt
    omega

theorem le_miredToKelvin_iff {mireds : UInt16} {kelvin : UInt32} (hmireds : mireds ≠ 0)
    (hkelvin : kelvin ≠ 0)
    : kelvin ≤ miredToKelvin mireds ↔ mireds ≤ kelvinToMired kelvin := by
  have hmireds : 0 < mireds.toNat := UInt16.lt_iff_toNat_lt.1 (UInt16.pos_iff_ne_zero.2 hmireds)
  have hkelvin : 0 < kelvin.toNat := UInt32.lt_iff_toNat_lt.1 (UInt32.pos_iff_ne_zero.2 hkelvin)
  have hfits : mireds.toNat ≤ 65535 := Nat.le_of_lt_succ mireds.toNat_lt
  rw [UInt32.le_iff_toNat_le, toNat_miredToKelvin]
  rw [UInt16.le_iff_toNat_le, toNat_kelvinToMired]
  -- Both say that the product is at most a million.
  calc
    kelvin.toNat ≤ 1000000 / mireds.toNat
    _ ↔ kelvin.toNat * mireds.toNat ≤ 1000000 := Nat.le_div_iff_mul_le hmireds
    _ ↔ mireds.toNat * kelvin.toNat ≤ 1000000 := by rw [Nat.mul_comm]
    _ ↔ mireds.toNat ≤ 1000000 / kelvin.toNat := (Nat.le_div_iff_mul_le hkelvin).symm
    _ ↔ mireds.toNat ≤ min (1000000 / kelvin.toNat) 65535 := by omega

theorem adjoint_miredToKelvin : Adjoint miredToKelvin kelvinToMired := by
  constructor
  . exact fun _ => UInt16.zero_le
  . exact fun _ => UInt32.zero_le
  . rfl
  . rfl
  . exact fun _ _ => le_miredToKelvin_iff

theorem miredToKelvin_bounds {mireds : UInt16} (hmireds : 0 < mireds)
    : mireds.toNat * (miredToKelvin mireds).toNat ≤ 1000000
        ∧ 1000000 < mireds.toNat * ((miredToKelvin mireds).toNat + 1) := by
  have hpos : 0 < mireds.toNat := UInt16.lt_iff_toNat_lt.1 hmireds
  rw [toNat_miredToKelvin]
  constructor
  . exact Nat.mul_div_le 1000000 mireds.toNat
  . exact Nat.lt_mul_div_succ 1000000 hpos

theorem conversions_adjoint
    : (∀ mireds kelvin, 0 < mireds → 0 < kelvin →
        (kelvin ≤ miredToKelvin mireds ↔ mireds ≤ kelvinToMired kelvin))
      ∧ (∀ mireds more, 0 < mireds → mireds ≤ more → miredToKelvin more ≤ miredToKelvin mireds)
      ∧ (∀ kelvin more, 0 < kelvin → kelvin ≤ more → kelvinToMired more ≤ kelvinToMired kelvin)
      ∧ (∀ mireds, 0 < mireds → miredToKelvin mireds ≠ 0 →
        mireds ≤ kelvinToMired (miredToKelvin mireds))
      ∧ (∀ kelvin, 0 < kelvin → kelvinToMired kelvin ≠ 0 →
        kelvin ≤ miredToKelvin (kelvinToMired kelvin))
      ∧ (∀ mireds, miredToKelvin (kelvinToMired (miredToKelvin mireds)) = miredToKelvin mireds)
      ∧ (∀ kelvin, kelvinToMired (miredToKelvin (kelvinToMired kelvin)) = kelvinToMired kelvin)
      ∧ ∀ mireds, 0 < mireds → mireds.toNat * (miredToKelvin mireds).toNat ≤ 1000000
        ∧ 1000000 < mireds.toNat * ((miredToKelvin mireds).toNat + 1) := by
  have h := adjoint_miredToKelvin
  simp only [UInt16.pos_iff_ne_zero, UInt32.pos_iff_ne_zero]
  refine ⟨h.le_iff, ?_, ?_, ?_, ?_, h.there_back_there, h.symm.there_back_there, ?_⟩
  . exact fun _ _ => h.antitone
  . exact fun _ _ => h.symm.antitone
  . exact fun _ => h.le_back
  . exact fun _ => h.symm.le_back
  . exact fun _ hmireds => miredToKelvin_bounds (UInt16.pos_iff_ne_zero.2 hmireds)

theorem conversions_adjoint_at_saturation
    : 0 < (65535 : UInt16) ∧ 0 < (1 : UInt32) ∧ kelvinToMired 1 = 65535 ∧ miredToKelvin 65535 = 15
        ∧ 1 ≤ miredToKelvin 65535 ∧ 1 ≤ miredToKelvin (kelvinToMired 1)
        ∧ ¬ 65535 ≤ kelvinToMired 16 := by
  obtain ⟨hiff, _, _, _, hback, _⟩ := conversions_adjoint
  refine ⟨by decide, by decide, rfl, rfl, ?_, ?_, ?_⟩
  . exact (hiff 65535 1 (by decide) (by decide)).2 (by decide)
  . exact hback 1 (by decide) (by decide)
  . rw [← hiff 65535 16 (by decide) (by decide)]
    decide

end HomeHub.Color
