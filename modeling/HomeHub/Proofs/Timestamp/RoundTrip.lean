import HomeHub.Proofs.Text.Digits
import HomeHub.Timestamp.Text

/-!
Timestamps read back as they were written, whatever the year.
-/

namespace HomeHub

namespace Date

theorem le_of_isValid {d : Date} (h : d.isValid = true)
    : firstYear ≤ d.year ∧ d.year ≤ lastYear ∧ 1 ≤ d.month ∧ d.month ≤ 12 ∧ 1 ≤ d.day
      ∧ d.day ≤ 31 := by
  have hdays : daysIn d.year d.month ≤ 31 := by
    unfold daysIn
    repeat' split
    all_goals decide
  simp only [isValid, Bool.and_eq_true, decide_eq_true_eq] at h
  omega

end Date

namespace Timestamp

open Text (padded ofDigits)

theorem skipBlanks_cons {c : Char} {s : Input} (h : Text.isBlank c = false)
    : skipBlanks (c :: s) = c :: s := by
  simp [skipBlanks, h]

theorem skipBlanks_digits {digits : List Char} (s : Input) (hne : digits ≠ [])
    (hdigits : ∀ c ∈ digits, c.isDigit = true)
    : skipBlanks (digits ++ s) = digits ++ s := by
  cases digits with
  | nil => contradiction
  | cons c digits =>
    apply skipBlanks_cons
    apply Text.isBlank_of_isDigit
    apply hdigits
    simp

theorem separator_cons {c : Char} (s : Input) (h : Text.isBlank c = false)
    : separator c (c :: s) = .ok s := by
  unfold separator
  rw [skipBlanks_cons h]
  simp

def EndsNumber (s : Input) : Prop :=
  ∀ c ∈ s.head?, c.isDigit = false

theorem takeWhile_digits {digits s : List Char} (hdigits : ∀ c ∈ digits, c.isDigit = true)
    (hs : EndsNumber s)
    : (digits ++ s).takeWhile Char.isDigit = digits := by
  rw [List.takeWhile_append_of_pos hdigits]
  cases s with
  | nil => simp
  | cons c s =>
    have hc : c.isDigit = false := hs c rfl
    simp [hc]

theorem EndsNumber.take {s : Input} (h : EndsNumber s) (n : Nat) : EndsNumber (s.take n) := by
  intro c hc
  cases n with
  | zero => simp at hc
  | succ n => exact h c (by simpa [List.head?_take] using hc)

theorem number_digits {digits s : List Char} (width : Option Nat) (hne : digits ≠ [])
    (hdigits : ∀ c ∈ digits, c.isDigit = true) (hwidth : ∀ w ∈ width, digits.length ≤ w)
    (hs : EndsNumber s)
    : number width (digits ++ s) = .ok (ofDigits digits, s) := by
  unfold number
  cases width with
  | none =>
    dsimp
    rw [takeWhile_digits hdigits hs]
    simp [hne]
  | some w =>
    dsimp
    rw [List.take_append]
    rw [List.take_of_length_le (hwidth w rfl)]
    rw [takeWhile_digits hdigits (hs.take _)]
    simp [hne]

theorem number_padded {width n : Nat} {s : Input} (limit : Option Nat) (hwidth : 0 < width)
    (hlimit : ∀ w ∈ limit, width ≤ w) (hn : n < 10 ^ width) (hs : EndsNumber s)
    : number limit (padded width n ++ s) = .ok (n, s) := by
  rw [number_digits]
  . rw [Text.ofDigits_padded hn]
  . exact Text.padded_ne_nil n hwidth
  . intro c hc
    exact Text.isDigit_of_mem_padded hc
  . simpa using hlimit
  . exact hs

theorem field_padded {low high n : Nat} {s : Input} (hlow : low ≤ n) (hhigh : n ≤ high)
    (hn : n < 100) (hs : EndsNumber s)
    : field low high (padded 2 n ++ s) = .ok (n, s) := by
  unfold field
  rw [skipBlanks_digits]
  . rw [number_padded]
    . simp [bind, Except.bind, pure, Except.pure, hlow, hhigh]
    . decide
    . simp
    . exact hn
    . exact hs
  . exact Text.padded_ne_nil n (by decide)
  . intro c hc
    exact Text.isDigit_of_mem_padded hc

/-! ### Years -/

theorem lt_pow_length_toDigits (n : Nat) : n < 10 ^ (Nat.toDigits 10 n).length := by
  have hpos : 0 < (Nat.toDigits 10 n).length := Nat.length_toDigits_pos
  exact (Nat.length_toDigits_le_iff (by decide) hpos).1 (Nat.le_refl _)

theorem year_digits {digits s : List Char} (hne : digits ≠ [])
    (hdigits : ∀ c ∈ digits, c.isDigit = true) (hwidth : digits.length ≤ 4) (hs : EndsNumber s)
    (hmax : (ofDigits digits : Int) ≤ Int32.maxValue.toInt)
    : year (digits ++ s) = .ok (ofDigits digits, s) := by
  have hhead : ∀ c rest, digits ++ s = c :: rest → c.isDigit = true := by
    intro c rest h
    cases digits with
    | nil => contradiction
    | cons d digits =>
      cases h
      apply hdigits
      simp
  unfold year
  rw [skipBlanks_digits s hne hdigits]
  -- A year that begins with a digit has no sign.
  split
  . next rest h => exact absurd (hhead _ _ h) (by decide)
  . next rest h => exact absurd (hhead _ _ h) (by decide)
  . rw [number_digits (some 4) hne hdigits (by simpa using hwidth) hs]
    simp [bind, Except.bind, pure, Except.pure, hmax]

theorem year_yearText {y : Int} {s : Input} (hlow : Date.firstYear ≤ y) (hhigh : y ≤ Date.lastYear)
    (hs : EndsNumber s)
    : year (yearText y ++ s) = .ok (y, s) := by
  have hmin : -2147483648 ≤ y := by
    unfold Date.firstYear at hlow
    omega
  have hmax : y ≤ Int32.maxValue.toInt := by
    have : Int32.maxValue.toInt = 2147483647 := by decide
    unfold Date.lastYear at hhigh
    omega
  unfold yearText
  split
  . next hplain =>
    have hy : ofDigits (padded 4 y.toNat) = y.toNat := Text.ofDigits_padded (by omega)
    rw [year_digits]
    . rw [hy]
      simp only [Except.ok.injEq, Prod.mk.injEq, and_true]
      omega
    . exact Text.padded_ne_nil _ (by decide)
    . intro c hc
      exact Text.isDigit_of_mem_padded hc
    . simp
    . exact hs
    . rw [hy]
      omega
  . have hnumber : number none (padded (max 4 (Nat.toDigits 10 y.natAbs).length) y.natAbs ++ s)
        = .ok (y.natAbs, s) := by
      apply number_padded
      . omega
      . simp
      . apply Nat.lt_of_lt_of_le (lt_pow_length_toDigits _)
        apply Nat.pow_le_pow_right
        . decide
        . omega
      . exact hs
    unfold year
    by_cases hneg : y < 0
    . have hy : -((y.natAbs : Nat) : Int) = y := by omega
      simp only [hneg, if_true, List.cons_append]
      rw [skipBlanks_cons (by decide)]
      simp only [hnumber, bind, Except.bind, pure, Except.pure, hy]
      rw [if_pos ⟨hmin, hmax⟩]
    . have hy : ((y.natAbs : Nat) : Int) = y := by omega
      simp only [hneg, if_false, List.cons_append]
      rw [skipBlanks_cons (by decide)]
      simp only [hnumber, bind, Except.bind, pure, Except.pure, hy]
      rw [if_pos ⟨hmin, hmax⟩]

/-! ### Fractions of a second -/

theorem endsNumber_cons {c : Char} {s : Input} (h : c.isDigit = false) : EndsNumber (c :: s) := by
  intro d hd
  cases hd
  exact h

theorem fraction_padded {width n : Nat} (hwidth : 0 < width) (hle : width ≤ 9)
    (hn : n < 10 ^ width)
    : fraction ('.' :: padded width n ++ ['Z']) = .ok (n * 10 ^ (9 - width), ['Z']) := by
  have hz : EndsNumber ['Z'] := endsNumber_cons (by decide)
  have hlimit : ∀ w ∈ some 9, width ≤ w := by simpa using hle
  unfold fraction
  simp only [List.cons_append]
  rw [number_padded (some 9) hwidth hlimit hn hz]
  have : ['Z'].dropWhile Char.isDigit = ['Z'] := by decide
  simp [bind, Except.bind, pure, Except.pure, this]

theorem fraction_fractionText {n : Nat} (h : n < nanosPerSecond)
    : fraction (fractionText n ++ ['Z']) = .ok (n, ['Z']) := by
  unfold nanosPerSecond at h
  unfold fractionText
  split
  . next hzero =>
    rw [hzero]
    rfl
  . split
    . next hmillis =>
      rw [fraction_padded (by decide) (by decide) (by omega)]
      have : n / 1000000 * 10 ^ (9 - 3) = n := by omega
      rw [this]
    . split
      . next hmicros =>
        rw [fraction_padded (by decide) (by decide) (by omega)]
        have : n / 1000 * 10 ^ (9 - 6) = n := by omega
        rw [this]
      . rw [fraction_padded (by decide) (by decide) (by omega)]
        simp

theorem endsNumber_fractionText (n : Nat) : EndsNumber (fractionText n ++ ['Z']) := by
  unfold fractionText
  repeat' split
  all_goals
    apply endsNumber_cons
    decide

/-! ### Timestamps -/

theorem shift_zero {date : Date} {hour minute : Nat} (hhour : hour < 24) (hminute : minute < 60)
    : shift date hour minute 0 = (date, hour, minute) := by
  unfold shift minutesPerDay
  dsimp
  rw [if_neg (by omega)]
  rw [if_neg (by omega)]
  simp only [Prod.mk.injEq, true_and]
  omega

theorem of?_parts (t : Timestamp)
    : of? t.date t.hour t.minute t.second t.nanosecond = some t := by
  unfold of?
  rw [dif_pos ⟨t.date_valid, t.hour_lt, t.minute_lt, t.second_le, t.nanosecond_lt⟩]

theorem offset_utc : offset ['Z'] = .ok (0, []) := by
  rfl

theorem parse_text (t : Timestamp) : parse t.text = .ok t := by
  obtain ⟨hfirst, hlast, hmonth, hmonth', hday, hday'⟩ := Date.le_of_isValid t.date_valid
  have hhour : t.hour ≤ 23 := Nat.le_of_lt_succ t.hour_lt
  have hminute : t.minute ≤ 59 := Nat.le_of_lt_succ t.minute_lt
  have hsecond := t.second_le
  -- Each number is followed by a mark that ends it.
  have hdash : ∀ s, EndsNumber ('-' :: s) := fun s => endsNumber_cons (by decide)
  have hcolon : ∀ s, EndsNumber (':' :: s) := fun s => endsNumber_cons (by decide)
  have ht : ∀ s, EndsNumber ('T' :: s) := fun s => endsNumber_cons (by decide)
  unfold parse text
  rw [String.toList_ofList]
  simp only [List.append_assoc, List.cons_append, bind, Except.bind]
  rw [year_yearText hfirst hlast (hdash _)]
  dsimp only
  rw [separator_cons _ (by decide)]
  dsimp only
  rw [field_padded hmonth hmonth' (by omega) (hdash _)]
  dsimp only
  rw [separator_cons _ (by decide)]
  dsimp only
  rw [field_padded hday hday' (by omega) (ht _)]
  simp only [true_or, if_true, pure, Except.pure]
  rw [field_padded (Nat.zero_le _) hhour (by omega) (hcolon _)]
  dsimp only
  rw [separator_cons _ (by decide)]
  dsimp only
  rw [field_padded (Nat.zero_le _) hminute (by omega) (hcolon _)]
  dsimp only
  rw [separator_cons _ (by decide)]
  dsimp only
  rw [field_padded (Nat.zero_le _) hsecond (by omega) (endsNumber_fractionText _)]
  dsimp only
  rw [fraction_fractionText t.nanosecond_lt]
  dsimp only
  rw [skipBlanks_cons (by decide)]
  rw [offset_utc]
  have hdate : (⟨t.date.year, t.date.month, t.date.day⟩ : Date) = t.date := rfl
  have hoffset : ¬minutesPerDay ≤ ((Int.natAbs 0 : Nat) : Int) := by decide
  simp only [hdate, t.date_valid, skipBlanks, List.dropWhile_nil, List.isEmpty_nil, Bool.not_true,
    Bool.false_eq_true, if_false, hoffset, Int.neg_zero, shift_zero t.hour_lt t.minute_lt,
    of?_parts]

end Timestamp

end HomeHub
