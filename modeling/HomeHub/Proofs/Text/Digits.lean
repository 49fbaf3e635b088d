import HomeHub.Text.Blank
import HomeHub.Text.Digits
import Mathlib.Algebra.Group.Nat.Defs

/-!
Digits of a fixed count: how many there are, and that they read back as the number.
-/

namespace HomeHub.Text

@[simp]
theorem length_padded (width n : Nat) : (padded width n).length = width := by
  induction width generalizing n with
  | zero => rfl
  | succ width ih => simp [padded, ih]

theorem padded_ne_nil {width : Nat} (n : Nat) (hwidth : 0 < width) : padded width n ≠ [] := by
  intro h
  have := length_padded width n
  rw [h] at this
  simp at this
  omega

theorem isDigit_of_mem_padded {width n : Nat} {c : Char} (h : c ∈ padded width n)
    : c.isDigit = true := by
  induction width generalizing n with
  | zero => simp [padded] at h
  | succ width ih =>
    simp only [padded, List.mem_append, List.mem_singleton] at h
    cases h with
    | inl h => exact ih h
    | inr h =>
      rw [h]
      rw [Nat.isDigit_digitChar]
      simp only [decide_eq_true_eq]
      omega

theorem ofDigits_concat (cs : List Char) (c : Char)
    : ofDigits (cs ++ [c]) = ofDigits cs * 10 + (c.toNat - '0'.toNat) := by
  unfold ofDigits
  rw [List.foldl_append]
  rfl

theorem ofDigits_padded {width n : Nat} (h : n < 10 ^ width) : ofDigits (padded width n) = n := by
  induction width generalizing n with
  | zero =>
    have : n = 0 := by simpa using h
    rw [this]
    rfl
  | succ width ih =>
    rw [padded]
    rw [ofDigits_concat]
    rw [ih]
    . rw [Nat.toNat_digitChar_of_lt_ten (by omega)]
      simp only [Char.reduceToNat]
      omega
    . rw [Nat.pow_succ] at h
      omega

theorem isBlank_of_isDigit {c : Char} (h : c.isDigit = true) : isBlank c = false := by
  simp only [Char.isDigit, Bool.and_eq_true, decide_eq_true_eq] at h
  obtain ⟨hlow, hhigh⟩ := h
  have hlow : 48 ≤ c.toNat := hlow
  have hhigh : c.toNat ≤ 57 := hhigh
  simp only [isBlank]
  grind

end HomeHub.Text
