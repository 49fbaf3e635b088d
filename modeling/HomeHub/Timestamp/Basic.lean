/-!
Points in time, as the calendar date and clock time they have in UTC.
-/

namespace HomeHub

structure Date where
  year : Int
  month : Nat
  day : Nat
  deriving DecidableEq, Repr

namespace Date

def isLeapYear (year : Int) : Bool :=
  year % 4 == 0 && (year % 100 != 0 || year % 400 == 0)

def daysIn (year : Int) (month : Nat) : Nat :=
  match month with
  | 2 => if isLeapYear year then 29 else 28
  | 4 | 6 | 9 | 11 => 30
  | _ => 31

def firstYear : Int := -262143

def lastYear : Int := 262142

def isValid (d : Date) : Bool :=
  firstYear ≤ d.year && d.year ≤ lastYear && 1 ≤ d.month && d.month ≤ 12 && 1 ≤ d.day &&
    d.day ≤ daysIn d.year d.month

def next (d : Date) : Date :=
  if d.day < daysIn d.year d.month then { d with day := d.day + 1 }
  else if d.month < 12 then ⟨d.year, d.month + 1, 1⟩
  else ⟨d.year + 1, 1, 1⟩

def previous (d : Date) : Date :=
  if 1 < d.day then { d with day := d.day - 1 }
  else if 1 < d.month then ⟨d.year, d.month - 1, daysIn d.year (d.month - 1)⟩
  else ⟨d.year - 1, 12, 31⟩

end Date

def nanosPerSecond : Nat := 1000000000

/-- A point in time of the calendar; a leap second has `second = 60`. -/
structure Timestamp where
  date : Date
  hour : Nat
  minute : Nat
  second : Nat
  nanosecond : Nat
  date_valid : date.isValid = true
  hour_lt : hour < 24
  minute_lt : minute < 60
  second_le : second ≤ 60
  nanosecond_lt : nanosecond < nanosPerSecond
  deriving DecidableEq, Repr

namespace Timestamp

def minutesPerDay : Int := 24 * 60

def of? (date : Date) (hour minute second nanosecond : Nat) : Option Timestamp :=
  if h : date.isValid = true ∧ hour < 24 ∧ minute < 60 ∧ second ≤ 60 ∧
      nanosecond < nanosPerSecond then
    some ⟨date, hour, minute, second, nanosecond, h.1, h.2.1, h.2.2.1, h.2.2.2.1, h.2.2.2.2⟩
  else none

def shift (date : Date) (hour minute : Nat) (minutes : Int) : Date × Nat × Nat :=
  let total : Int := hour * 60 + minute + minutes
  let date :=
    if total < 0 then date.previous
    else if minutesPerDay ≤ total then date.next
    else date
  let inDay := (total % minutesPerDay).toNat
  (date, inDay / 60, inDay % 60)

def reading (n : Nat) : Timestamp where
  date := ⟨min (2000 + (n / nanosPerSecond : Nat)) Date.lastYear, 1, 1⟩
  hour := 0
  minute := 0
  second := 0
  nanosecond := n % nanosPerSecond
  date_valid := by
    have : Date.firstYear ≤ min (2000 + ((n / nanosPerSecond : Nat) : Int)) Date.lastYear := by
      generalize n / nanosPerSecond = years
      unfold Date.firstYear Date.lastYear
      omega
    simpa [Date.isValid, Date.daysIn, Int.min_le_right] using this
  hour_lt := by decide
  minute_lt := by decide
  second_le := by decide
  nanosecond_lt := Nat.mod_lt _ (by decide)

end Timestamp

end HomeHub
