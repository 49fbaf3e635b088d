/-!
The numbers that colour formulas are written over, so that one formula has both its floating-point
and its exact reading.
-/

namespace HomeHub

class Scalar (α : Type) extends Add α, Sub α, Mul α, Div α where
  ofNat : Nat → α
  ofDecimal (m places : Nat) : α
  isZero : α → Bool
  lt : α → α → Bool
  floor : α → α
  truncate : α → Int

namespace Scalar

variable {α : Type} [Scalar α]

def clamp (x low high : α) : α :=
  if lt x low then low else if lt high x then high else x

def truncateUpTo (limit : Nat) (x : α) : Nat :=
  min (truncate x).toNat limit

end Scalar

/-- Doubles; cutting keeps to the range of 64-bit integers and takes NaN to zero. -/
instance : Scalar Float where
  ofNat n := Float.ofNat n
  ofDecimal m places := OfScientific.ofScientific m true places
  isZero x := x == 0
  lt x y := x < y
  floor := Float.floor
  truncate x := x.toInt64.toInt

/-- Exact numbers, cut to the same range. -/
instance : Scalar Rat where
  ofNat n := n
  ofDecimal m places := m / 10 ^ places
  isZero x := x == 0
  lt x y := x < y
  floor x := x.floor
  truncate x := (Int64.ofIntClamp (x.num.tdiv x.den)).toInt

end HomeHub
