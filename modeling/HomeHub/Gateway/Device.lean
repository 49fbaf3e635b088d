import HomeHub.Json.Decode
import HomeHub.Text.Shown

/-!
Devices and groups of devices, as the gateway reports them.
-/

namespace HomeHub.Gateway

open Text (Shown)

structure LightData where
  state : Bool := false
  dimmer : UInt8 := 0
  /-- In mireds. -/
  colorTemp : Option UInt16 := none
  hexColor : Option String := none
  xyColor : Option (UInt32 × UInt32) := none
  deriving DecidableEq

structure LightControl where
  canSetDimmer : Bool := false
  canSetColor : Bool := false
  canSetMireds : Bool := false
  canSetKelvin : Bool := false
  minMireds : UInt16 := 250
  maxMireds : UInt16 := 454
  lights : List LightData := []
  deriving DecidableEq

structure Device where
  id : UInt64
  name : String
  reachable : Bool := true
  lightControl : Option LightControl := none
  deriving DecidableEq

structure Group where
  id : UInt64
  name : String
  state : Bool := false
  dimmer : UInt8 := 0
  deriving DecidableEq

/-! ### JSON -/

def orNull {α : Type} (encode : α → Json) (value : Option α) : Json :=
  (value.map encode).getD .null

namespace LightData

def toJson (light : LightData) : Json :=
  .obj
    [("color_temp", orNull (fun n => .int n.toNat) light.colorTemp),
     ("dimmer", .int light.dimmer.toNat),
     ("hex_color", orNull .str light.hexColor),
     ("state", .bool light.state),
     ("xy_color", orNull (fun (x, y) => .arr [.int x.toNat, .int y.toNat]) light.xyColor)]

open Json.Decode in
def layout : Decoding.Layout Json LightData :=
  LightData.mk <$> .withDefault "state" false boolean
    <*> .withDefault "dimmer" 0 uint8
    <*> .withDefault "color_temp" none (option uint16)
    <*> .withDefault "hex_color" none (option string)
    <*> .withDefault "xy_color" none (option (pair uint32 uint32))

def ofJson : Json.Decoder LightData :=
  Json.Decode.record "LightData" layout

end LightData

namespace LightControl

def toJson (control : LightControl) : Json :=
  .obj
    [("can_set_color", .bool control.canSetColor),
     ("can_set_dimmer", .bool control.canSetDimmer),
     ("can_set_kelvin", .bool control.canSetKelvin),
     ("can_set_mireds", .bool control.canSetMireds),
     ("lights", .arr (control.lights.map LightData.toJson)),
     ("max_mireds", .int control.maxMireds.toNat),
     ("min_mireds", .int control.minMireds.toNat)]

open Json.Decode in
def layout : Decoding.Layout Json LightControl :=
  LightControl.mk <$> .withDefault "can_set_dimmer" false boolean
    <*> .withDefault "can_set_color" false boolean
    <*> .withDefault "can_set_mireds" false boolean
    <*> .withDefault "can_set_kelvin" false boolean
    <*> .withDefault "min_mireds" 250 uint16
    <*> .withDefault "max_mireds" 454 uint16
    <*> .withDefault "lights" [] (list LightData.ofJson)

def ofJson : Json.Decoder LightControl :=
  Json.Decode.record "LightControl" layout

end LightControl

namespace Device

def toJson (device : Device) : Json :=
  .obj
    [("id", .int device.id.toNat),
     ("light_control", orNull LightControl.toJson device.lightControl),
     ("name", .str device.name),
     ("reachable", .bool device.reachable)]

open Json.Decode in
def layout : Decoding.Layout Json Device :=
  Device.mk <$> .required "id" uint64
    <*> .required "name" string
    <*> .withDefault "reachable" true boolean
    <*> .withDefault "light_control" none (option LightControl.ofJson)

def ofJson : Json.Decoder Device :=
  Json.Decode.record "Device" layout

end Device

namespace Group

def toJson (group : Group) : Json :=
  .obj
    [("dimmer", .int group.dimmer.toNat),
     ("id", .int group.id.toNat),
     ("name", .str group.name),
     ("state", .bool group.state)]

open Json.Decode in
def layout : Decoding.Layout Json Group :=
  Group.mk <$> .required "id" uint64
    <*> .required "name" string
    <*> .withDefault "state" false boolean
    <*> .withDefault "dimmer" 0 uint8

def ofJson : Json.Decoder Group :=
  Json.Decode.record "Group" layout

end Group

/-! ### Error messages -/

def LightData.shown (light : LightData) : Shown :=
  .record "LightData"
    [("state", .bool light.state),
     ("dimmer", .nat light.dimmer.toNat),
     ("color_temp", .option (fun n => .nat n.toNat) light.colorTemp),
     ("hex_color", .option .str light.hexColor),
     ("xy_color", .option (fun (x, y) => .tuple [.nat x.toNat, .nat y.toNat]) light.xyColor)]

def LightControl.shown (control : LightControl) : Shown :=
  .record "LightControl"
    [("can_set_dimmer", .bool control.canSetDimmer),
     ("can_set_color", .bool control.canSetColor),
     ("can_set_mireds", .bool control.canSetMireds),
     ("can_set_kelvin", .bool control.canSetKelvin),
     ("min_mireds", .nat control.minMireds.toNat),
     ("max_mireds", .nat control.maxMireds.toNat),
     ("lights", .list (control.lights.map LightData.shown))]

def Device.shown (device : Device) : Shown :=
  .record "Device"
    [("id", .nat device.id.toNat),
     ("name", .str device.name),
     ("reachable", .bool device.reachable),
     ("light_control", .option LightControl.shown device.lightControl)]

def Group.shown (group : Group) : Shown :=
  .record "Group"
    [("id", .nat group.id.toNat),
     ("name", .str group.name),
     ("state", .bool group.state),
     ("dimmer", .nat group.dimmer.toNat)]

end HomeHub.Gateway
