/-!
The fewest decimal digits that read back as a given floating-point number, and of those the
nearest.
-/

namespace HomeHub.Decimal

inductive Tie where
  | toEven
  | away
  deriving DecidableEq, Repr

def Tie.staysBelow (tie : Tie) (below : Nat) : Bool :=
  match tie with
  | .toEven => below % 2 == 0
  | .away => false

structure Scientific where
  coefficient : Nat
  exponent : Int
  deriving DecidableEq, Repr

def Scientific.trim (x : Scientific) : Nat → Scientific
  | 0 => x
  | fuel + 1 =>
    if x.coefficient ≠ 0 ∧ x.coefficient % 10 = 0 then
      trim ⟨x.coefficient / 10, x.exponent + 1⟩ fuel
    else x

def leadingBit : Nat := Nat.pow 2 52

def binary (bits : UInt64) : Nat × Int :=
  let fraction : Nat := bits.toNat % leadingBit
  let exponent : Nat := bits.toNat / leadingBit % 2048
  if exponent = 0 then (fraction, -1074) else (fraction + leadingBit, (exponent : Int) - 1075)

def placesBefore (num den : Nat) : Int :=
  if den ≤ num then (Nat.toDigits 10 (num / den)).length
  else 1 - (shift 400 1 : Int)
where
  shift : Nat → Nat → Nat
    | 0, j => j
    | fuel + 1, j => if den ≤ num * Nat.pow 10 j then j else shift fuel (j + 1)

/--
The reals that round to `mantissa · 2 ^ exponent` lie between `low / den` and `high / den`, ends
included for an even mantissa; the number itself is `num / den`.
-/
structure Interval where
  num : Nat
  low : Nat
  high : Nat
  den : Nat
  closed : Bool

def Interval.ofBinary (mantissa : Nat) (exponent : Int) : Interval :=
  let up := Nat.pow 2 (exponent - 2).toNat
  let below := if mantissa = leadingBit ∧ -1074 < exponent then 1 else 2
  { num := 4 * mantissa * up
    low := (4 * mantissa - below) * up
    high := (4 * mantissa + 2) * up
    den := Nat.pow 2 (2 - exponent).toNat
    closed := mantissa % 2 == 0 }

def Interval.contains (i : Interval) (c : Nat) (place : Int) : Bool :=
  let x := c * i.den * Nat.pow 10 place.toNat
  let low := i.low * Nat.pow 10 (-place).toNat
  let high := i.high * Nat.pow 10 (-place).toNat
  if i.closed then low ≤ x && x ≤ high else low < x && x < high

def Interval.onGrid? (i : Interval) (tie : Tie) (place : Int) : Option Nat :=
  let num := i.num * Nat.pow 10 (-place).toNat
  let den := i.den * Nat.pow 10 place.toNat
  let below := num / den
  let rest := 2 * (num % den)
  let nearer := if rest < den ∨ (rest = den ∧ tie.staysBelow below) then below else below + 1
  let farther := if nearer = below then below + 1 else below
  if i.contains nearer place then some nearer
  else if i.contains farther place then some farther
  else none

def shortest (tie : Tie) (mantissa : Nat) (exponent : Int) : Scientific :=
  let i := Interval.ofBinary mantissa exponent
  let places := placesBefore i.num i.den
  let rec search : Nat → Int → Scientific
    | 0, place => ⟨i.num * Nat.pow 10 (-place).toNat / (i.den * Nat.pow 10 place.toNat), place⟩
    | fuel + 1, place =>
      match i.onGrid? tie place with
      | some c => ⟨c, place⟩
      | none => search fuel (place - 1)
  (search 17 (places - 1)).trim 20

end HomeHub.Decimal
