/-!
Decimals read as floating-point numbers.
-/

namespace HomeHub.Decimal

def nearest (coefficient : Nat) (exponent : Int) : Float :=
  let digits : Int := (Nat.toDigits 10 coefficient).length
  if coefficient = 0 then 0
  -- Far beyond the range of doubles the power of ten would only cost time.
  else if exponent + digits < -400 then 0
  else if 400 < exponent + digits then 1.0 / 0.0
  else if exponent < 0 then OfScientific.ofScientific coefficient true (-exponent).toNat
  else OfScientific.ofScientific coefficient false exponent.toNat

def largestPower : Nat := 308

def scaled? (significand : Nat) (exponent : Int) : Option Float :=
  go (Float.ofNat significand) exponent (exponent.natAbs / largestPower + 1)
where
  go (x : Float) (exponent : Int) : Nat → Option Float
    | 0 => some x
    | fuel + 1 =>
      if exponent.natAbs ≤ largestPower then
        let power := nearest 1 exponent.natAbs
        if 0 ≤ exponent then
          let y := x * power
          if y.isInf then none else some y
        else some (x / power)
      else if x == 0 then some x
      else if 0 ≤ exponent then none
      else go (x / nearest 1 largestPower) (exponent + largestPower) fuel

end HomeHub.Decimal
