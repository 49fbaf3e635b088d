import HomeHub.Color.Hue
import HomeHub.Json.Decode

/-!
The options of the services that switch lights.
-/

namespace HomeHub.Light

structure TurnOnParams where
  brightness : Option UInt8 := none
  /-- Hue in degrees and saturation in percent. -/
  hsColor : Option (Float × Float) := none
  xyColor : Option (Float × Float) := none
  rgbColor : Option Rgb := none
  /-- In mireds. -/
  colorTemp : Option UInt16 := none
  /-- In seconds. -/
  transition : Option Float := none

structure TurnOffParams where
  transition : Option Float := none

open Json.Decode in
def rgbOfJson : Json.Decoder Rgb := fun v =>
  (triple uint8 uint8 uint8 v).map fun (red, green, blue) => ⟨red, green, blue⟩

open Json.Decode in
def TurnOnParams.layout : Decoding.Layout Json TurnOnParams :=
  TurnOnParams.mk <$> .withDefault "brightness" none (option uint8)
    <*> .withDefault "hs_color" none (option (pair float float))
    <*> .withDefault "xy_color" none (option (pair float float))
    <*> .withDefault "rgb_color" none (option rgbOfJson)
    <*> .withDefault "color_temp" none (option uint16)
    <*> .withDefault "transition" none (option float)

def TurnOnParams.ofJson : Json.Decoder TurnOnParams :=
  Json.Decode.record "TurnOnParams" layout

open Json.Decode in
def TurnOffParams.layout : Decoding.Layout Json TurnOffParams :=
  TurnOffParams.mk <$> .withDefault "transition" none (option float)

def TurnOffParams.ofJson : Json.Decoder TurnOffParams :=
  Json.Decode.record "TurnOffParams" layout

end HomeHub.Light
