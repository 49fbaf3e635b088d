import HomeHub.Decimal.Shortest

/-!
How a floating-point number is written: which numbers are written without an exponent, and which
way ties go.
-/

namespace HomeHub.Decimal

/--
A number whose decimal point stands after place `p` of its digits is written out in full when
`above < p ≤ upTo`, and with an exponent otherwise; an absent bound excludes nothing.
-/
structure Style where
  above : Option Int := none
  upTo : Option Int := none
  tie : Tie

def Style.writesOut (style : Style) (point : Int) : Bool :=
  (style.above.all (· < point)) && (style.upTo.all (point ≤ ·))

def written (digits : List Char) (point : Int) : List Char :=
  let n := digits.length
  if point ≤ 0 then ['0', '.'] ++ List.replicate (-point).toNat '0' ++ digits
  else if point.toNat < n then digits.take point.toNat ++ '.' :: digits.drop point.toNat
  else digits ++ List.replicate (point.toNat - n) '0' ++ ['.', '0']

def exponential (digits : List Char) (point : Int) : List Char :=
  let lead := match digits with
    | [] => ['0']
    | [d] => [d]
    | d :: rest => d :: '.' :: rest
  let power := point - 1
  lead ++ 'e' :: (if power < 0 then '-' else '+') :: Nat.toDigits 10 power.natAbs

def Style.render (style : Style) (x : Float) : String :=
  if x.isNaN then "NaN"
  else
    let sign := if x.toBits ≥ 0x8000000000000000 then "-" else ""
    if x.isInf then sign ++ "inf"
    else
      let (mantissa, exponent) := binary x.toBits
      if mantissa = 0 then sign ++ "0.0"
      else
        let s := shortest style.tie mantissa exponent
        let digits := Nat.toDigits 10 s.coefficient
        let point := s.exponent + digits.length
        sign ++ String.ofList
          (if style.writesOut point then written digits point else exponential digits point)

end HomeHub.Decimal
