import HomeHub.Color.Hue

/-!
CIE chromaticities of colours.
-/

namespace HomeHub.Color

def gammaExpand (channel : Float) : Float :=
  if channel > 0.04045 then ((channel + 0.055) / (1.0 + 0.055)).pow 2.4 else channel / 12.92

def roundToThousandths (x : Float) : Float :=
  (x * 1000.0).round / 1000.0

def chromaticity (color : Rgb) : (Float × Float) × UInt8 :=
  if color.red = 0 ∧ color.green = 0 ∧ color.blue = 0 then ((0.0, 0.0), 0)
  else
    let r := gammaExpand (color.red.toFloat / 255.0)
    let g := gammaExpand (color.green.toFloat / 255.0)
    let b := gammaExpand (color.blue.toFloat / 255.0)
    let x := r * 0.664511 + g * 0.154324 + b * 0.162028
    let y := r * 0.283881 + g * 0.668433 + b * 0.047685
    let z := r * 0.000088 + g * 0.072310 + b * 0.986039
    let sum := x + y + z
    let brightness := Scalar.clamp (y * 255.0).round 0.0 255.0
    ((roundToThousandths (x / sum), roundToThousandths (y / sum)), brightness.toUInt8)

def xyOfRgb (color : Rgb) : Float × Float :=
  (chromaticity color).1

end HomeHub.Color
