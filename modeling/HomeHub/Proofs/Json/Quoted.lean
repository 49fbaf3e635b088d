import HomeHub.Json.Compact
import HomeHub.Json.Reader

/-!
Strings in JSON texts: whatever characters a string has, it is read back as it was written.
-/

namespace HomeHub.Json

theorem unit?_paddedHex {n : Nat} (h : n < 0x20) (rest : Input)
    : unit? (Text.paddedHex 4 n ++ rest) = some (n, rest) := by
  have hdigits : ∀ n < 0x20, Text.ofDigits? 16 (Text.paddedHex 4 n) = some n := by
    decide
  have hnumber := hdigits n h
  simp only [Text.paddedHex, List.nil_append, List.cons_append] at hnumber ⊢
  rw [unit?, hnumber]
  rfl

theorem escaped?_control {c : Char} (h : c.toNat < 0x20) (rest : Input)
    : escaped? ('u' :: Text.paddedHex 4 c.toNat ++ rest) = some (c, rest) := by
  have hplain : (decide (c.toNat < 0xd800) || decide (0xe000 ≤ c.toNat)) = true := by
    simp only [Bool.or_eq_true, decide_eq_true_eq]
    omega
  rw [List.cons_append, escaped?]
  rw [unit?_paddedHex h]
  dsimp only [bind, Option.bind]
  rw [if_neg (by omega)]
  rw [hplain, Char.ofNat_toNat]
  rfl

theorem string?_backslash {c : Char} {s rest : Input} (h : escaped? s = some (c, rest)) (fuel : Nat)
    (written : List Char)
    : string? (fuel + 1) ('\\' :: s) written = string? fuel rest (c :: written) := by
  have hstep : string? (fuel + 1) ('\\' :: s) written
      = (escaped? s).bind fun found => string? fuel found.2 (found.1 :: written) := by
    rfl
  rw [hstep, h]
  rfl

theorem string?_escape (c : Char) (fuel : Nat) (rest : Input) (written : List Char)
    : string? (fuel + 1) (escape c ++ rest) written = string? fuel rest (c :: written) := by
  unfold escape
  split
  case h_8 _ hquote hbackslash _ _ _ _ _ =>
    split
    . next hcontrol =>
      apply string?_backslash
      exact escaped?_control hcontrol rest
    . next hplain =>
      simp only [List.cons_append, List.nil_append]
      rw [string?]
      . rw [if_neg hplain]
      . exact hquote
      . exact hbackslash
  all_goals rfl

theorem length_le_escaped (cs : List Char) : cs.length ≤ (cs.flatMap escape).length := by
  induction cs with
  | nil => simp
  | cons c cs ih =>
    have hc : 0 < (escape c).length := by
      unfold escape
      split
      case h_8 => split <;> simp
      all_goals simp
    simp only [List.flatMap_cons, List.length_append, List.length_cons]
    omega

theorem string?_escaped {cs : List Char} {fuel : Nat} (hfuel : cs.length < fuel) (rest : Input)
    (written : List Char)
    : string? fuel (cs.flatMap escape ++ '"' :: rest) written
        =
      some (String.ofList (written.reverse ++ cs), rest) := by
  induction cs generalizing fuel written with
  | nil =>
    obtain ⟨fuel, rfl⟩ : ∃ left, fuel = left + 1 := ⟨fuel - 1, by simp at hfuel; omega⟩
    simp [string?]
  | cons c cs ih =>
    simp only [List.length_cons] at hfuel
    obtain ⟨fuel, rfl⟩ : ∃ left, fuel = left + 1 := ⟨fuel - 1, by omega⟩
    rw [List.flatMap_cons, List.append_assoc]
    rw [string?_escape]
    rw [ih (by omega)]
    simp

theorem value?_quote (fuel : Nat) (rest : Input)
    : value? (fuel + 1) ('"' :: rest)
        =
      (string? (rest.length + 1) rest []).map fun found => (.str found.1, found.2) := by
  rw [value?]
  rfl

theorem read?_compact_str (s : String) : read? (compact (.str s)) = some (.str s) := by
  have htext : (compact (.str s)).toList = '"' :: (s.toList.flatMap escape ++ ['"']) := by
    simp [compact, quoted]
  unfold read?
  dsimp only
  rw [htext]
  rw [value?_quote]
  rw [string?_escaped]
  . rw [List.reverse_nil, List.nil_append, String.ofList_toList]
    rfl
  . have := length_le_escaped s.toList
    simp only [List.length_append, List.length_singleton]
    omega

end HomeHub.Json
