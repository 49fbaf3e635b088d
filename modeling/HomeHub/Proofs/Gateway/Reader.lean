import HomeHub.Gateway.Response

/-!
The reader of the wire form of commands: what a gateway would make of it.
-/

namespace HomeHub.Gateway

def member? {α : Type} (decode : Json.Decoder α) (key : String) (v : Json) : Option α := do
  (decode (← v.member? key)).toOption

def transitionOf? (v : Json) : Option (Option UInt32) :=
  match v.member? "transition_time" with
  | none => some none
  | some time => (Json.Decode.option Json.Decode.uint32 time).toOption

open Json.Decode

def LightAction.ofJson? (v : Json) : Option LightAction := do
  match ← member? string "action" v with
  | "set_state" => return .setState (← member? boolean "state" v)
  | "set_dimmer" => return .setDimmer (← member? uint8 "dimmer" v) (← transitionOf? v)
  | "set_xy_color" =>
    return .setXyColor (← member? uint32 "color_x" v) (← member? uint32 "color_y" v)
      (← transitionOf? v)
  | "set_rgb_color" =>
    let (red, green) := (← member? uint8 "red" v, ← member? uint8 "green" v)
    return .setRgbColor ⟨red, green, ← member? uint8 "blue" v⟩
  | "set_kelvin_color" => return .setKelvinColor (← member? uint32 "kelvin" v)
  | "set_color_temp" => return .setColorTemp (← member? uint16 "color_temp" v) (← transitionOf? v)
  | _ => none

def GroupAction.ofJson? (v : Json) : Option GroupAction := do
  match ← member? string "action" v with
  | "set_state" => return .setState (← member? uint8 "state" v)
  | "set_dimmer" => return .setDimmer (← member? uint8 "dimmer" v) (← transitionOf? v)
  | _ => none

def Command.ofJson? (v : Json) : Option Command := do
  match ← member? string "command" v with
  | "list_devices" => return .listDevices
  | "get_device" => return .getDevice (← member? uint64 "device_id" v)
  | "list_groups" => return .listGroups
  | "get_group" => return .getGroup (← member? uint64 "group_id" v)
  | "observe_device" => return .observeDevice (← member? uint64 "device_id" v)
  | "observe_group" => return .observeGroup (← member? uint64 "group_id" v)
  | "light" =>
    return .light (← member? uint64 "device_id" v) (← LightAction.ofJson? (← v.member? "action"))
  | "group" =>
    return .group (← member? uint64 "group_id" v) (← GroupAction.ofJson? (← v.member? "action"))
  | _ => none

end HomeHub.Gateway
