import HomeHub.Text.Blank
import HomeHub.Text.Digits
import HomeHub.Timestamp.Basic

/-!
The text form of timestamps. Writing follows RFC 3339 in UTC; reading admits in addition blanks
around the numbers, short numbers, signed years and a space in place of the `T`.
-/

namespace HomeHub.Timestamp

inductive Error where
  | tooShort
  | invalid
  | outOfRange
  | impossible
  | tooLong
  deriving DecidableEq, Repr

def Error.message : Error → String
  | .tooShort => "premature end of input"
  | .invalid => "input contains invalid characters"
  | .outOfRange => "input is out of range"
  | .impossible => "no possible date and time matching input"
  | .tooLong => "trailing input"

/-! ### Writing -/

def yearText (year : Int) : List Char :=
  if 0 ≤ year ∧ year ≤ 9999 then Text.padded 4 year.toNat
  else
    let width := max 4 (Nat.toDigits 10 year.natAbs).length
    (if year < 0 then '-' else '+') :: Text.padded width year.natAbs

def fractionText (nanosecond : Nat) : List Char :=
  if nanosecond = 0 then []
  else if nanosecond % 1000000 = 0 then '.' :: Text.padded 3 (nanosecond / 1000000)
  else if nanosecond % 1000 = 0 then '.' :: Text.padded 6 (nanosecond / 1000)
  else '.' :: Text.padded 9 nanosecond

def text (t : Timestamp) : String :=
  String.ofList <|
    yearText t.date.year ++ '-' :: Text.padded 2 t.date.month ++ '-' :: Text.padded 2 t.date.day ++
    'T' :: Text.padded 2 t.hour ++ ':' :: Text.padded 2 t.minute ++ ':' :: Text.padded 2 t.second ++
    fractionText t.nanosecond ++ ['Z']

/-! ### Reading -/

abbrev Input := List Char

def skipBlanks (s : Input) : Input :=
  s.dropWhile Text.isBlank

def number (width : Option Nat) (s : Input) : Except Error (Nat × Input) :=
  let digits := (match width with
    | some w => s.take w
    | none => s).takeWhile Char.isDigit
  if digits.isEmpty then .error (if s.isEmpty then .tooShort else .invalid)
  else .ok (Text.ofDigits digits, s.drop digits.length)

def field (low high : Nat) (s : Input) : Except Error (Nat × Input) := do
  let (n, s) ← number (some 2) (skipBlanks s)
  if low ≤ n ∧ n ≤ high then return (n, s) else throw .outOfRange

def year (s : Input) : Except Error (Int × Input) := do
  let (y, s) ← match skipBlanks s with
    | '-' :: s => do let (n, s) ← number none s; pure (-(n : Int), s)
    | '+' :: s => do let (n, s) ← number none s; pure ((n : Int), s)
    | s => do let (n, s) ← number (some 4) s; pure ((n : Int), s)
  if Int32.minValue.toInt ≤ y ∧ y ≤ Int32.maxValue.toInt then return (y, s) else throw .outOfRange

def separator (c : Char) (s : Input) : Except Error Input :=
  match skipBlanks s with
  | [] => .error .tooShort
  | d :: s => if d = c then .ok s else .error .invalid

def fraction (s : Input) : Except Error (Nat × Input) :=
  match s with
  | '.' :: s => do
    let (n, rest) ← number (some 9) s
    let width := s.length - rest.length
    return (n * Nat.pow 10 (9 - width), rest.dropWhile Char.isDigit)
  | s => .ok (0, s)

def offsetDigits (sixty : Bool) (s : Input) : Except Error (Nat × Input) :=
  match s with
  | a :: b :: s =>
    if a.isDigit && b.isDigit then
      if sixty && '6' ≤ a then .error .outOfRange else .ok (Text.ofDigits [a, b], s)
    else .error .invalid
  -- A character that is not ASCII takes up the room of two digits.
  | [a] => .error (if a.utf8Size = 1 then .tooShort else .invalid)
  | [] => .error .tooShort

def offset (s : Input) : Except Error (Int × Input) :=
  match s with
  | [] => .error .tooShort
  | c :: rest =>
    if (s.take 3).map Char.toUpper = ['U', 'T', 'C'] then .ok (0, s.drop 3)
    else if c = 'Z' ∨ c = 'z' then .ok (0, rest)
    else if c = '+' ∨ c = '-' ∨ c = '\u2212' then do
      let (hours, rest) ← offsetDigits false rest
      let rest := rest.dropWhile fun c => c == ':' || Text.isBlank c
      let (minutes, rest) ← offsetDigits true rest
      let total : Int := hours * 60 + minutes
      return (if c = '+' then total else -total, rest)
    else .error .invalid

def parse (text : String) : Except Error Timestamp := do
  let (year, s) ← year text.toList
  let s ← separator '-' s
  let (month, s) ← field 1 12 s
  let s ← separator '-' s
  let (day, s) ← field 1 31 s
  let s ← match s with
    | [] => throw .tooShort
    | c :: s => if c = 'T' ∨ c = 't' ∨ c = ' ' then pure s else throw .invalid
  let (hour, s) ← field 0 23 s
  let s ← separator ':' s
  let (minute, s) ← field 0 59 s
  let s ← separator ':' s
  let (second, s) ← field 0 60 s
  let (nanosecond, s) ← fraction s
  let (offset, s) ← offset (skipBlanks s)
  if !(skipBlanks s).isEmpty then throw .tooLong
  let date : Date := ⟨year, month, day⟩
  if !date.isValid then throw .outOfRange
  if minutesPerDay ≤ offset.natAbs then throw .outOfRange
  let (date, hour, minute) := shift date hour minute (-offset)
  match of? date hour minute second nanosecond with
  | some t => return t
  | none => throw .impossible

end HomeHub.Timestamp
