import HomeHub.Color.Hue
import HomeHub.Gateway.Device

/-!
Commands to the gateway.
-/

namespace HomeHub.Gateway

open Text (Shown)

/-- A change to the light of a device; transition times are in tenths of a second. -/
inductive LightAction where
  | setState (state : Bool)
  | setDimmer (dimmer : UInt8) (transitionTime : Option UInt32)
  | setXyColor (x y : UInt32) (transitionTime : Option UInt32)
  | setRgbColor (color : Rgb)
  | setKelvinColor (kelvin : UInt32)
  | setColorTemp (colorTemp : UInt16) (transitionTime : Option UInt32)
  deriving DecidableEq

inductive GroupAction where
  /-- Zero is off, one is on. -/
  | setState (state : UInt8)
  | setDimmer (dimmer : UInt8) (transitionTime : Option UInt32)
  deriving DecidableEq

inductive Command where
  | listDevices
  | getDevice (deviceId : UInt64)
  | listGroups
  | getGroup (groupId : UInt64)
  | observeDevice (deviceId : UInt64)
  | observeGroup (groupId : UInt64)
  | light (deviceId : UInt64) (action : LightAction)
  | group (groupId : UInt64) (action : GroupAction)
  deriving DecidableEq

/-! ### JSON -/

def transitionMember (time : Option UInt32) : List (String × Json) :=
  (time.map fun n => ("transition_time", Json.int n.toNat)).toList

def LightAction.toJson : LightAction → Json
  | .setState state => .obj [("action", .str "set_state"), ("state", .bool state)]
  | .setDimmer dimmer time =>
    .obj <| [("action", .str "set_dimmer"), ("dimmer", .int dimmer.toNat)] ++ transitionMember time
  | .setXyColor x y time =>
    .obj <|
      [("action", .str "set_xy_color"), ("color_x", .int x.toNat), ("color_y", .int y.toNat)] ++
        transitionMember time
  | .setRgbColor color =>
    .obj [("action", .str "set_rgb_color"), ("blue", .int color.blue.toNat),
      ("green", .int color.green.toNat), ("red", .int color.red.toNat)]
  | .setKelvinColor kelvin =>
    .obj [("action", .str "set_kelvin_color"), ("kelvin", .int kelvin.toNat)]
  | .setColorTemp colorTemp time =>
    .obj <| [("action", .str "set_color_temp"), ("color_temp", .int colorTemp.toNat)] ++
      transitionMember time

def GroupAction.toJson : GroupAction → Json
  | .setState state => .obj [("action", .str "set_state"), ("state", .int state.toNat)]
  | .setDimmer dimmer time =>
    .obj <| [("action", .str "set_dimmer"), ("dimmer", .int dimmer.toNat)] ++ transitionMember time

def Command.toJson : Command → Json
  | .listDevices => .obj [("command", .str "list_devices")]
  | .getDevice id => .obj [("command", .str "get_device"), ("device_id", .int id.toNat)]
  | .listGroups => .obj [("command", .str "list_groups")]
  | .getGroup id => .obj [("command", .str "get_group"), ("group_id", .int id.toNat)]
  | .observeDevice id => .obj [("command", .str "observe_device"), ("device_id", .int id.toNat)]
  | .observeGroup id => .obj [("command", .str "observe_group"), ("group_id", .int id.toNat)]
  | .light id action =>
    .obj [("action", action.toJson), ("command", .str "light"), ("device_id", .int id.toNat)]
  | .group id action =>
    .obj [("action", action.toJson), ("command", .str "group"), ("group_id", .int id.toNat)]

/-! ### Error messages -/

def transitionShown (time : Option UInt32) : String × Shown :=
  ("transition_time", .option (fun n => .nat n.toNat) time)

def LightAction.shown : LightAction → Shown
  | .setState state => .record "SetState" [("state", .bool state)]
  | .setDimmer dimmer time =>
    .record "SetDimmer" [("dimmer", .nat dimmer.toNat), transitionShown time]
  | .setXyColor x y time =>
    .record "SetXyColor"
      [("color_x", .nat x.toNat), ("color_y", .nat y.toNat), transitionShown time]
  | .setRgbColor color =>
    .record "SetRgbColor" [("red", .nat color.red.toNat), ("green", .nat color.green.toNat),
      ("blue", .nat color.blue.toNat)]
  | .setKelvinColor kelvin => .record "SetKelvinColor" [("kelvin", .nat kelvin.toNat)]
  | .setColorTemp colorTemp time =>
    .record "SetColorTemp" [("color_temp", .nat colorTemp.toNat), transitionShown time]

def GroupAction.shown : GroupAction → Shown
  | .setState state => .record "SetState" [("state", .nat state.toNat)]
  | .setDimmer dimmer time =>
    .record "SetDimmer" [("dimmer", .nat dimmer.toNat), transitionShown time]

def Command.shown : Command → Shown
  | .listDevices => .word "ListDevices"
  | .getDevice id => .record "GetDevice" [("device_id", .nat id.toNat)]
  | .listGroups => .word "ListGroups"
  | .getGroup id => .record "GetGroup" [("group_id", .nat id.toNat)]
  | .observeDevice id => .record "ObserveDevice" [("device_id", .nat id.toNat)]
  | .observeGroup id => .record "ObserveGroup" [("group_id", .nat id.toNat)]
  | .light id action => .record "Light" [("device_id", .nat id.toNat), ("action", action.shown)]
  | .group id action => .record "Group" [("group_id", .nat id.toNat), ("action", action.shown)]

end HomeHub.Gateway
