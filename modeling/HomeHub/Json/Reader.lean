import HomeHub.Decimal.Reading
import HomeHub.Json.Basic
import HomeHub.Text.Digits

/-!
JSON texts read into values.
-/

namespace HomeHub.Json

abbrev Input := List Char

def skipBlanks (s : Input) : Input :=
  s.dropWhile fun c => c == ' ' || c == '\t' || c == '\n' || c == '\r'

def expect? (word : List Char) (s : Input) : Option Input :=
  if word.isPrefixOf s then some (s.drop word.length) else none

/-! ### Numbers -/

def significandLimit : Nat := UInt64.size

def lowestMagnitude : Nat := Int64.minValue.toInt.natAbs

def significand (digits : List Char) (start : Nat) : Nat × Nat :=
  match digits with
  | [] => (start, 0)
  | d :: rest =>
    let n := start * 10 + (d.toNat - '0'.toNat)
    if n < significandLimit then significand rest n else (start, digits.length)

def exponent? (s : Input) : Option (Int × Input) :=
  match s with
  | c :: rest =>
    if c == 'e' || c == 'E' then
      let (sign, rest) : Int × Input := match rest with
        | '+' :: rest => (1, rest)
        | '-' :: rest => (-1, rest)
        | rest => (1, rest)
      let digits := rest.takeWhile Char.isDigit
      if digits.isEmpty then none
      else some (sign * Text.ofDigits digits, rest.drop digits.length)
    else some (0, s)
  | [] => some (0, s)

def number? (s : Input) : Option (Json × Input) := do
  let (negative, s) := match s with
    | '-' :: rest => (true, rest)
    | s => (false, s)
  let whole := s.takeWhile Char.isDigit
  guard (!whole.isEmpty && (whole.length == 1 || whole.head? != some '0'))
  let s := s.drop whole.length
  let (m, dropped) := significand whole 0
  let (fraction, s) ← match s with
    | '.' :: rest =>
      let digits := rest.takeWhile Char.isDigit
      if digits.isEmpty then none else some (digits, rest.drop digits.length)
    | s => some ([], s)
  let written := !fraction.isEmpty || s.head? == some 'e' || s.head? == some 'E'
  let (e, s) ← exponent? s
  -- What is out of the range of 64-bit integers is a floating-point number, and so is `-0`.
  if !written && dropped == 0 && (!negative || (0 < m && m ≤ lowestMagnitude)) then
    return (.int (if negative then -(m : Int) else m), s)
  let (m, left) := if dropped == 0 then significand fraction m else (m, fraction.length)
  let place : Int := dropped - (fraction.length - left : Nat)
  let x ← if m == 0 then some 0.0 else Decimal.scaled? m (place + e)
  return (.float (if negative then -x else x), s)

/-! ### Strings -/

def unit? : Input → Option (Nat × Input)
  | a :: b :: c :: d :: rest => (Text.ofDigits? 16 [a, b, c, d]).map (·, rest)
  | _ => none

def escaped? : Input → Option (Char × Input)
  | 'u' :: rest => do
    let (high, rest) ← unit? rest
    if 0xd800 ≤ high ∧ high < 0xdc00 then
      let rest ← expect? ['\\', 'u'] rest
      let (low, rest) ← unit? rest
      guard (0xdc00 ≤ low && low < 0xe000)
      return (Char.ofNat (0x10000 + (high - 0xd800) * 0x400 + (low - 0xdc00)), rest)
    guard (high < 0xd800 || 0xe000 ≤ high)
    return (Char.ofNat high, rest)
  | '"' :: rest => some ('"', rest)
  | '\\' :: rest => some ('\\', rest)
  | '/' :: rest => some ('/', rest)
  | 'b' :: rest => some ('\x08', rest)
  | 'f' :: rest => some ('\x0c', rest)
  | 'n' :: rest => some ('\n', rest)
  | 'r' :: rest => some ('\r', rest)
  | 't' :: rest => some ('\t', rest)
  | _ => none

def string? : Nat → Input → List Char → Option (String × Input)
  | 0, _, _ => none
  | fuel + 1, s, written =>
    match s with
    | '"' :: rest => some (String.ofList written.reverse, rest)
    | '\\' :: rest => do
      let (c, rest) ← escaped? rest
      string? fuel rest (c :: written)
    | c :: rest => if c.toNat < 0x20 then none else string? fuel rest (c :: written)
    | [] => none

/-! ### Values -/

mutual

def value? : Nat → Input → Option (Json × Input)
  | 0, _ => none
  | fuel + 1, s =>
    match skipBlanks s with
    | 'n' :: rest => (expect? ['u', 'l', 'l'] rest).map (.null, ·)
    | 't' :: rest => (expect? ['r', 'u', 'e'] rest).map (.bool true, ·)
    | 'f' :: rest => (expect? ['a', 'l', 's', 'e'] rest).map (.bool false, ·)
    | '"' :: rest => (string? (rest.length + 1) rest []).map fun (s, rest) => (.str s, rest)
    | '[' :: rest =>
      match skipBlanks rest with
      | ']' :: rest => some (.arr [], rest)
      | rest => items? fuel rest []
    | '\x7b' :: rest =>
      match skipBlanks rest with
      | '\x7d' :: rest => some (.obj [], rest)
      | rest => members? fuel rest []
    | s => number? s

def items? : Nat → Input → List Json → Option (Json × Input)
  | 0, _, _ => none
  | fuel + 1, s, read => do
    let (x, s) ← value? fuel s
    match skipBlanks s with
    | ']' :: rest => some (.arr (x :: read).reverse, rest)
    | ',' :: rest => items? fuel rest (x :: read)
    | _ => none

def members? : Nat → Input → List (String × Json) → Option (Json × Input)
  | 0, _, _ => none
  | fuel + 1, s, read => do
    let rest ← expect? ['"'] (skipBlanks s)
    let (key, s) ← string? (rest.length + 1) rest []
    let s ← expect? [':'] (skipBlanks s)
    let (x, s) ← value? fuel s
    match skipBlanks s with
    | '\x7d' :: rest => some (.obj (Object.ofList ((key, x) :: read).reverse), rest)
    | ',' :: rest => members? fuel rest ((key, x) :: read)
    | _ => none

end

def read? (text : String) : Option Json := do
  let s := text.toList
  let (x, rest) ← value? (2 * s.length + 2) s
  guard (skipBlanks rest).isEmpty
  return x

end HomeHub.Json
