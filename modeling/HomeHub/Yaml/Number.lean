import HomeHub.Decimal.Reading
import HomeHub.Text.Digits

/-!
Numbers in plain scalars, as the core schema of YAML writes them.
-/

namespace HomeHub.Yaml.Number

def bases : List (Char × Nat) :=
  [('x', 16), ('o', 8), ('b', 2)]

def isZeroPadded (cs : List Char) : Bool :=
  let digits := match cs with
    | '-' :: rest => rest
    | '+' :: rest => rest
    | cs => cs
  1 < digits.length && digits.head? == some '0' && digits.all Char.isDigit

def natural? (cs : List Char) : Option Nat :=
  let based := match cs with
    | '0' :: letter :: digits => (bases.lookup letter).bind fun base => Text.ofDigits? base digits
    | _ => none
  based.or (Text.ofDigits? 10 cs)

def integer? (cs : List Char) : Option Int :=
  if isZeroPadded cs then none
  else
    match cs with
    | '+' :: rest => (natural? rest).map Int.ofNat
    | '-' :: rest => (natural? rest).map fun n => -(n : Int)
    | cs => (natural? cs).map Int.ofNat

/--
The whole numbers that are told from floating-point numbers: those of 128 bits, with or without a
sign.
-/
def isWide (n : Int) : Bool :=
  -Int.ofNat (Nat.pow 2 127) ≤ n && n < Int.ofNat (Nat.pow 2 128)

def exponent? (cs : List Char) : Option Int :=
  match cs with
  | [] => some 0
  | c :: rest =>
    if c == 'e' || c == 'E' then
      match rest with
      | '+' :: digits => (Text.ofDigits? 10 digits).map Int.ofNat
      | '-' :: digits => (Text.ofDigits? 10 digits).map fun n => -(n : Int)
      | digits => (Text.ofDigits? 10 digits).map Int.ofNat
    else none

def decimal? (cs : List Char) : Option Float := do
  let whole := cs.takeWhile Char.isDigit
  let (fraction, rest) := match cs.drop whole.length with
    | '.' :: rest => (rest.takeWhile Char.isDigit, rest.dropWhile Char.isDigit)
    | rest => ([], rest)
  guard (!whole.isEmpty || !fraction.isEmpty)
  let exponent ← exponent? rest
  return Decimal.nearest (Text.ofDigits (whole ++ fraction)) (exponent - fraction.length)

def finite? (cs : List Char) : Option Float := do
  let x ← match cs with
    | '+' :: rest => decimal? rest
    | '-' :: rest => (decimal? rest).map (- ·)
    | cs => decimal? cs
  if x.isFinite then some x else none

def float? (s : String) : Option Float :=
  if s ∈ [".inf", ".Inf", ".INF", "+.inf", "+.Inf", "+.INF"] then some (1.0 / 0.0)
  else if s ∈ ["-.inf", "-.Inf", "-.INF"] then some (-1.0 / 0.0)
  else if s ∈ [".nan", ".NaN", ".NAN"] then some (0.0 / 0.0)
  else finite? s.toList

end HomeHub.Yaml.Number
