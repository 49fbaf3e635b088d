/-!
Colour temperatures, in mireds and in kelvins. Both scales are a million divided by the other one.
-/

namespace HomeHub.Color

def miredToKelvin (mireds : UInt16) : UInt32 :=
  if mireds = 0 then 0 else 1000000 / mireds.toUInt32

def kelvinToMired (kelvin : UInt32) : UInt16 :=
  if kelvin = 0 then 0 else UInt16.ofNat (min (1000000 / kelvin.toNat) 65535)

end HomeHub.Color
