import HomeHub.Color.Scalar

/-!
The scales of the gateway: chromaticities up to 65535, dimmers up to 254, times in tenths of a
second.
-/

namespace HomeHub.Gateway

section

variable {α : Type} [Scalar α]

open Scalar (ofNat ofDecimal)

def xyScale : Nat := 65535

def normalize (value : α) : UInt32 :=
  let scaled := Scalar.truncateUpTo (UInt32.size - 1) (value * ofNat xyScale + ofDecimal 56 2)
  UInt32.ofNat (min scaled xyScale)

def denormalize (value : UInt32) : α :=
  ofNat value.toNat / ofNat xyScale

def normalizeXy (xy : α × α) : UInt32 × UInt32 :=
  (normalize xy.1, normalize xy.2)

def denormalizeXy (xy : UInt32 × UInt32) : α × α :=
  (denormalize xy.1, denormalize xy.2)

def transitionTime (seconds : α) : UInt32 :=
  UInt32.ofNat (min (Scalar.truncateUpTo (UInt32.size - 1) seconds * 10) (UInt32.size - 1))

end

def maxDimmer : UInt8 := 254

def dimmer (brightness : UInt8) : UInt8 :=
  if brightness = 255 then maxDimmer else brightness

end HomeHub.Gateway
