import HomeHub.Color.Scalar

/-!
Colours given by hue, saturation and value, turned into red, green and blue.
-/

namespace HomeHub

structure Rgb where
  red : UInt8
  green : UInt8
  blue : UInt8
  deriving DecidableEq, Repr

namespace Color

variable {α : Type} [Scalar α]

open Scalar (ofNat isZero floor truncate clamp)

def channel (fraction : α) : UInt8 :=
  UInt8.ofNat (Scalar.truncateUpTo 255 (clamp (fraction * ofNat 255) (ofNat 0) (ofNat 255)))

def hueFractions (h s v : α) : α × α × α :=
  if isZero s then (v, v, v)
  else
    let sector := floor (h * ofNat 6)
    let f := h * ofNat 6 - sector
    let p := v * (ofNat 1 - s)
    let q := v * (ofNat 1 - s * f)
    let t := v * (ofNat 1 - s * (ofNat 1 - f))
    -- The hue wheel has six sectors; hues off the wheel are taken around it.
    match truncate sector % 6 with
    | 0 => (v, t, p)
    | 1 => (q, v, p)
    | 2 => (p, v, t)
    | 3 => (p, q, v)
    | 4 => (t, p, v)
    | _ => (v, p, q)

def ofHsv (hue saturation value : α) : Rgb :=
  let (r, g, b) :=
    hueFractions (hue / ofNat 360) (saturation / ofNat 100) (value / ofNat 100)
  ⟨channel r, channel g, channel b⟩

def ofHs (hue saturation : α) : Rgb :=
  ofHsv hue saturation (ofNat 100)

end Color

end HomeHub
