import HomeHub.Color.Hue
import HomeHub.Proofs.Color.Scalar
import Mathlib.Tactic.IntervalCases
import Mathlib.Tactic.NormNum
import Mathlib.Tactic.Ring

/-!
The hue wheel, read exactly. On its way around the wheel each channel fades in the same way as the
other two, a third of a turn after the one before. What is to be said of turning the wheel and of
the brightest and the darkest channel follows from this alone.
-/

namespace HomeHub

namespace Rgb

def turned (color : Rgb) : Rgb :=
  ⟨color.blue, color.red, color.green⟩

def largest (color : Rgb) : ℕ :=
  max (max color.red.toNat color.green.toNat) color.blue.toNat

def smallest (color : Rgb) : ℕ :=
  min (min color.red.toNat color.green.toNat) color.blue.toNat

end Rgb

namespace Color

open Scalar (ofNat truncate clamp)

/-! ### Channels -/

theorem toNat_channel (fraction : ℚ)
    : (channel fraction).toNat = min ⌊fraction * 255⌋₊ 255 := by
  have hfloor : ⌊max 0 (min (fraction * 255) 255)⌋₊ = min ⌊fraction * 255⌋₊ 255 := by
    rw [Nat.floor_mono.map_max, Nat.floor_mono.map_min]
    rw [Nat.floor_zero, Nat.floor_ofNat]
    omega
  have hsize : UInt8.size = 256 := by rfl
  unfold channel
  rw [Scalar.truncateUpTo_eq (by norm_num)]
  simp only [Scalar.ofNat_eq, Nat.cast_zero, Nat.cast_ofNat]
  rw [Scalar.clamp_eq (by norm_num)]
  rw [hfloor]
  rw [min_assoc, min_self]
  apply UInt8.toNat_ofNat_of_lt'
  omega

theorem toNat_channel_of_le_one {fraction : ℚ} (h : fraction ≤ 1)
    : (channel fraction).toNat = ⌊fraction * 255⌋₊ := by
  rw [toNat_channel]
  apply min_eq_left
  apply Nat.floor_le_of_le
  push_cast
  linarith

theorem monotone_channel
    : Monotone fun fraction : ℚ => (channel fraction).toNat := by
  intro x y hle
  simp only [toNat_channel]
  apply min_le_min_right
  apply Nat.floor_mono
  linarith

/-! ### Fading -/

/--
What a channel has lost when it has gone so far around the wheel since it began to fade: it fades
over a sixth of a turn, is gone for a third, comes back over a sixth and is full for the rest.
-/
def fading (turns : ℚ) : ℚ :=
  let sectors := 6 * Int.fract turns
  max 0 (min 1 (min sectors (4 - sectors)))

theorem fading_bounds (turns : ℚ)
    : 0 ≤ fading turns ∧ fading turns ≤ 1 := by
  constructor
  . apply le_max_left
  . apply max_le
    . norm_num
    . apply min_le_left

theorem fading_add_one (turns : ℚ)
    : fading (turns + 1) = fading turns := by
  unfold fading
  rw [Int.fract_add_one]

theorem sectors_fract (sector : ℤ) {part : ℚ} (hlow : 0 ≤ part) (hhigh : part < 1)
    : 6 * Int.fract ((sector + part) / 6) = (sector % 6 : ℤ) + part := by
  have hnonneg : (0 : ℚ) ≤ (sector % 6 : ℤ) := by
    have : 0 ≤ sector % 6 := by omega
    exact_mod_cast this
  have hle : ((sector % 6 : ℤ) : ℚ) ≤ 5 := by
    have : sector % 6 ≤ 5 := by omega
    exact_mod_cast this
  have hsector : (sector : ℚ) = 6 * (sector / 6 : ℤ) + (sector % 6 : ℤ) := by
    exact_mod_cast (Int.mul_ediv_add_emod sector 6).symm
  -- Whole turns leave the fractional part alone, and less than one turn is left.
  have hsplit : (sector + part) / 6 = (sector / 6 : ℤ) + ((sector % 6 : ℤ) + part) / 6 := by
    rw [hsector]
    ring
  rw [hsplit]
  rw [Int.fract_intCast_add]
  rw [Int.fract_eq_self.2 (by constructor <;> linarith)]
  ring

theorem fading_sector (sector : ℤ) {part : ℚ} (hlow : 0 ≤ part) (hhigh : part < 1)
    : fading ((sector + part) / 6)
        =
      match sector % 6 with
      | 0 => part
      | 1 => 1
      | 2 => 1
      | 3 => 1 - part
      | _ => 0 := by
  have hnonneg : 0 ≤ sector % 6 := by omega
  have hlt : sector % 6 < 6 := by omega
  unfold fading
  rw [sectors_fract sector hlow hhigh]
  interval_cases sector % 6
  all_goals
    grind

def fadings (turns : ℚ) : ℚ × ℚ × ℚ :=
  (fading (turns - 1 / 6), fading (turns - 3 / 6), fading (turns - 5 / 6))

theorem fadings_sector (sector : ℤ) {part : ℚ} (hlow : 0 ≤ part) (hhigh : part < 1)
    : fadings ((sector + part) / 6)
        =
      match sector % 6 with
      | 0 => (0, 1 - part, 1)
      | 1 => (part, 0, 1)
      | 2 => (1, 0, 1 - part)
      | 3 => (1, part, 0)
      | 4 => (1 - part, 1, 0)
      | _ => (0, 1, part) := by
  have hback (n : ℤ) : (sector + part) / 6 - n / 6 = ((sector - n : ℤ) + part) / 6 := by
    push_cast
    ring
  have hred := hback 1
  have hgreen := hback 3
  have hblue := hback 5
  have hnonneg : 0 ≤ sector % 6 := by omega
  have hlt : sector % 6 < 6 := by omega
  simp only [Int.cast_one, Int.cast_ofNat] at hred hgreen hblue
  unfold fadings
  rw [hred, hgreen, hblue]
  simp only [fading_sector _ hlow hhigh]
  rw [Int.sub_emod sector 1, Int.sub_emod sector 3, Int.sub_emod sector 5]
  interval_cases sector % 6
  all_goals
    rfl

theorem exists_sector (turns : ℚ)
    : ∃ (sector : ℤ) (part : ℚ), 0 ≤ part ∧ part < 1 ∧ turns = (sector + part) / 6 := by
  refine ⟨⌊turns * 6⌋, Int.fract (turns * 6), Int.fract_nonneg _, Int.fract_lt_one _, ?_⟩
  rw [Int.floor_add_fract]
  ring

theorem fadings_add_one (turns : ℚ)
    : fadings (turns + 1) = fadings turns := by
  unfold fadings
  simp only [add_sub_right_comm, fading_add_one]

theorem fadings_add_third (turns : ℚ)
    : fadings (turns + 1 / 3)
        =
      ((fadings turns).2.2, (fadings turns).1, (fadings turns).2.1) := by
  have hred : turns + 1 / 3 - 1 / 6 = turns - 5 / 6 + 1 := by ring
  have hgreen : turns + 1 / 3 - 3 / 6 = turns - 1 / 6 := by ring
  have hblue : turns + 1 / 3 - 5 / 6 = turns - 3 / 6 := by ring
  unfold fadings
  rw [hred, hgreen, hblue]
  rw [fading_add_one]

theorem min_fadings (turns : ℚ)
    : min (min (fadings turns).1 (fadings turns).2.1) (fadings turns).2.2 = 0 := by
  obtain ⟨sector, part, hlow, hhigh, rfl⟩ := exists_sector turns
  rw [fadings_sector sector hlow hhigh]
  split
  all_goals
    grind

theorem max_fadings (turns : ℚ)
    : max (max (fadings turns).1 (fadings turns).2.1) (fadings turns).2.2 = 1 := by
  obtain ⟨sector, part, hlow, hhigh, rfl⟩ := exists_sector turns
  rw [fadings_sector sector hlow hhigh]
  split
  all_goals
    grind

def faded (s v loss : ℚ) : ℚ :=
  v * (1 - s * loss)

section

variable {s v : ℚ}

theorem antitone_faded (hs : 0 ≤ s) (hv : 0 ≤ v)
    : Antitone (faded s v) := by
  intro x y hle
  unfold faded
  gcongr

theorem faded_bounds (hs : 0 ≤ s ∧ s ≤ 1) (hv : 0 ≤ v ∧ v ≤ 1) {loss : ℚ}
    (hloss : 0 ≤ loss ∧ loss ≤ 1)
    : 0 ≤ faded s v loss ∧ faded s v loss ≤ 1 := by
  have hanti := antitone_faded hs.1 hv.1
  constructor
  . calc
      0 ≤ v * (1 - s * 1) := mul_nonneg hv.1 (by linarith)
      _ ≤ faded s v loss := hanti hloss.2
  . calc
      faded s v loss ≤ v * (1 - s * 0) := hanti hloss.1
      _ = v := by ring
      _ ≤ 1 := hv.2

end

/-! ### The wheel -/

def place (h : ℚ) : ℚ :=
  (truncate (⌊h * 6⌋ : ℚ) + Int.fract (h * 6)) / 6

theorem hueFractions_eq (h s v : ℚ)
    : hueFractions h s v
        =
      let (red, green, blue) := fadings (place h)
      (faded s v red, faded s v green, faded s v blue) := by
  have hnonneg : 0 ≤ truncate (⌊h * 6⌋ : ℚ) % 6 := by omega
  have hlt : truncate (⌊h * 6⌋ : ℚ) % 6 < 6 := by omega
  unfold hueFractions
  split
  . next hzero =>
    -- Without saturation nothing is lost, wherever the hue is looked up.
    rw [Scalar.isZero_iff] at hzero
    simp [faded, hzero]
  . unfold place
    rw [fadings_sector _ (Int.fract_nonneg _) (Int.fract_lt_one _)]
    simp only [Scalar.floor_eq, Scalar.ofNat_eq, Nat.cast_ofNat, Nat.cast_one, Int.self_sub_floor]
    -- All six sectors are the same fading, begun at different places.
    interval_cases truncate (⌊h * 6⌋ : ℚ) % 6
    all_goals
      simp [faded]

/-- The sector of the hue is a 64-bit integer. -/
def InRange (hue : ℚ) : Prop :=
  -2 ^ 63 ≤ 6 * hue / 360 ∧ 6 * hue / 360 < 2 ^ 63

theorem place_of_inRange {hue : ℚ} (h : InRange hue)
    : place (hue / 360) = hue / 360 := by
  obtain ⟨hlow, hhigh⟩ := h
  have hsectors : hue / 360 * 6 = 6 * hue / 360 := by ring
  unfold place
  rw [hsectors]
  rw [Scalar.truncate_intCast]
  . rw [Int.floor_add_fract]
    ring
  . rw [Int.le_floor]
    exact_mod_cast hlow
  . rw [Int.floor_lt]
    exact_mod_cast hhigh

theorem ofHsv_eq (hue saturation value : ℚ)
    : ofHsv hue saturation value
        =
      let shade := fun loss => channel (faded (saturation / 100) (value / 100) loss)
      let (red, green, blue) := fadings (place (hue / 360))
      ⟨shade red, shade green, shade blue⟩ := by
  unfold ofHsv
  simp only [Scalar.ofNat_eq, Nat.cast_ofNat, hueFractions_eq]

theorem ofHsv_add_third {hue : ℚ} (h : InRange hue) (hnext : InRange (hue + 120))
    (saturation value : ℚ)
    : ofHsv (hue + 120) saturation value = (ofHsv hue saturation value).turned := by
  have hthird : (hue + 120) / 360 = hue / 360 + 1 / 3 := by ring
  simp only [ofHsv_eq]
  rw [place_of_inRange h, place_of_inRange hnext]
  rw [hthird]
  rw [fadings_add_third]
  rfl

theorem ofHsv_add_turn {hue : ℚ} (h : InRange hue) (hnext : InRange (hue + 360))
    (saturation value : ℚ)
    : ofHsv (hue + 360) saturation value = ofHsv hue saturation value := by
  have hturn : (hue + 360) / 360 = hue / 360 + 1 := by ring
  simp only [ofHsv_eq]
  rw [place_of_inRange h, place_of_inRange hnext]
  rw [hturn]
  rw [fadings_add_one]

section

variable {saturation value : ℚ}

theorem antitone_shade (hsaturation : 0 ≤ saturation) (hvalue : 0 ≤ value)
    : Antitone fun loss => (channel (faded (saturation / 100) (value / 100) loss)).toNat := by
  apply monotone_channel.comp_antitone
  apply antitone_faded
  . positivity
  . positivity

theorem largest_ofHsv (hsaturation : 0 ≤ saturation) (hvalue : 0 ≤ value) (hue : ℚ)
    : (ofHsv hue saturation value).largest
        =
      (channel (faded (saturation / 100) (value / 100) 0)).toNat := by
  have hanti := antitone_shade hsaturation hvalue
  rw [← min_fadings (place (hue / 360))]
  rw [hanti.map_min, hanti.map_min]
  rw [ofHsv_eq]
  rfl

theorem smallest_ofHsv (hsaturation : 0 ≤ saturation) (hvalue : 0 ≤ value) (hue : ℚ)
    : (ofHsv hue saturation value).smallest
        =
      (channel (faded (saturation / 100) (value / 100) 1)).toNat := by
  have hanti := antitone_shade hsaturation hvalue
  rw [← max_fadings (place (hue / 360))]
  rw [hanti.map_max, hanti.map_max]
  rw [ofHsv_eq]
  rfl

end

theorem bounds_of_percent {x : ℚ} (h : 0 ≤ x ∧ x ≤ 100)
    : 0 ≤ x / 100 ∧ x / 100 ≤ 1 := by
  constructor
  . linarith
  . linarith

def shares (hue saturation value : ℚ) : List ℚ :=
  let (red, green, blue) := hueFractions (hue / 360) (saturation / 100) (value / 100)
  [red, green, blue]

theorem exists_faded_of_mem_shares {hue saturation value share : ℚ}
    (h : share ∈ shares hue saturation value)
    : ∃ turns, share = faded (saturation / 100) (value / 100) (fading turns) := by
  simp only [shares, hueFractions_eq, fadings, List.mem_cons, List.not_mem_nil, or_false] at h
  rcases h with hred | hgreen | hblue
  . exact ⟨_, hred⟩
  . exact ⟨_, hgreen⟩
  . exact ⟨_, hblue⟩

/--
A third of the wheel hands each channel on to the next one, and a whole turn changes nothing, if the
sectors of both hues are 64-bit integers.
-/
theorem ofHsv_rotation_and_extremes (hue saturation value : ℚ)
    (hsaturation : 0 ≤ saturation ∧ saturation ≤ 100) (hvalue : 0 ≤ value ∧ value ≤ 100)
    : (InRange hue → InRange (hue + 120) →
        ofHsv (hue + 120) saturation value = (ofHsv hue saturation value).turned)
      ∧ (InRange hue → InRange (hue + 360) →
        ofHsv (hue + 360) saturation value = ofHsv hue saturation value)
      ∧ (ofHsv hue saturation value).largest = ⌊255 * value / 100⌋₊
      ∧ (ofHsv hue saturation value).smallest = ⌊255 * (value / 100) * (1 - saturation / 100)⌋₊
      ∧ ∀ share ∈ shares hue saturation value,
        clamp (share * ofNat 255) (ofNat 0) (ofNat 255) = share * ofNat 255 := by
  have hs := bounds_of_percent hsaturation
  have hv := bounds_of_percent hvalue
  refine ⟨?_, ?_, ?_, ?_, ?_⟩
  . exact fun h hnext => ofHsv_add_third h hnext saturation value
  . exact fun h hnext => ofHsv_add_turn h hnext saturation value
  . have hfull : faded (saturation / 100) (value / 100) 0 * 255 = 255 * value / 100 := by
      unfold faded
      ring
    rw [largest_ofHsv hsaturation.1 hvalue.1]
    rw [toNat_channel_of_le_one (faded_bounds hs hv (by norm_num)).2]
    rw [hfull]
  . have hgone : faded (saturation / 100) (value / 100) 1 * 255
        = 255 * (value / 100) * (1 - saturation / 100) := by
      unfold faded
      ring
    rw [smallest_ofHsv hsaturation.1 hvalue.1]
    rw [toNat_channel_of_le_one (faded_bounds hs hv (by norm_num)).2]
    rw [hgone]
  . intro share hmem
    obtain ⟨turns, rfl⟩ := exists_faded_of_mem_shares hmem
    obtain ⟨hlow, hhigh⟩ := faded_bounds hs hv (fading_bounds turns)
    simp only [Scalar.ofNat_eq, Nat.cast_zero, Nat.cast_ofNat]
    rw [Scalar.clamp_eq (by norm_num)]
    rw [min_eq_left (by linarith)]
    rw [max_eq_right (by linarith)]

theorem ofHsv_rotation_of_negative_hue
    : InRange (-50) ∧ InRange (-50 + 120) ∧ InRange (-50 + 360)
        ∧ ((0 : ℚ) ≤ 50 ∧ (50 : ℚ) ≤ 100) ∧ ((0 : ℚ) ≤ 40 ∧ (40 : ℚ) ≤ 100)
        ∧ ofHsv (-50 : ℚ) 50 40 = ⟨102, 51, 93⟩
        ∧ ofHsv (-50 + 120 : ℚ) 50 40 = ⟨93, 102, 51⟩
        ∧ ofHsv (-50 + 360 : ℚ) 50 40 = ⟨102, 51, 93⟩
        ∧ ⌊255 * (40 : ℚ) / 100⌋₊ = 102
        ∧ ⌊255 * (40 / 100 : ℚ) * (1 - 50 / 100)⌋₊ = 51
        ∧ shares (-50) 50 40 = [2 / 5, 1 / 5, 11 / 30]
        ∧ clamp (11 / 30 * ofNat 255 : ℚ) (ofNat 0) (ofNat 255) = 11 / 30 * ofNat 255 := by
  have hbefore : InRange (-50) := by norm_num [InRange]
  have hthird : InRange (-50 + 120) := by norm_num [InRange]
  have hturn : InRange (-50 + 360) := by norm_num [InRange]
  have hsaturation : (0 : ℚ) ≤ 50 ∧ (50 : ℚ) ≤ 100 := by norm_num
  have hvalue : (0 : ℚ) ≤ 40 ∧ (40 : ℚ) ≤ 100 := by norm_num
  have hplum : ofHsv (-50 : ℚ) 50 40 = ⟨102, 51, 93⟩ := by decide +kernel
  have hshares : shares (-50) 50 40 = [2 / 5, 1 / 5, 11 / 30] := by decide +kernel
  obtain ⟨hnext, hagain, hlargest, hsmallest, hfree⟩ :=
    ofHsv_rotation_and_extremes (-50) 50 40 hsaturation hvalue
  refine ⟨hbefore, hthird, hturn, hsaturation, hvalue, hplum, ?_, ?_, ?_, ?_, hshares, ?_⟩
  . rw [hnext hbefore hthird, hplum]
    rfl
  . rw [hagain hbefore hturn, hplum]
  . rw [← hlargest, hplum]
    rfl
  . rw [← hsmallest, hplum]
    rfl
  . apply hfree
    rw [hshares]
    decide +kernel

end Color

end HomeHub
