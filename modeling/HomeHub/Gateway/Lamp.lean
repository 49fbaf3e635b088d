import HomeHub.Color.Chromaticity
import HomeHub.Color.Temperature
import HomeHub.Gateway.Response
import HomeHub.Gateway.RetryPolicy
import HomeHub.Gateway.Scale
import HomeHub.Light.Params
import HomeHub.Light.View

/-!
Lamps: the devices and the groups of a gateway, seen as lights. What a lamp shows is what the
gateway last reported; commands change it only through later reports.
-/

namespace HomeHub.Gateway

open Light (View TurnOnParams)

def lampFeatures : UInt32 :=
  Light.supportBrightness ||| Light.supportTransition

structure Snapshot where
  deviceId : UInt64
  name : String
  reachable : Bool
  control : LightControl
  light : LightData
  features : UInt32
  deriving DecidableEq

def Snapshot.ofDevice (device : Device) : Except Error Snapshot :=
  match device.lightControl with
  | none => .error (.notALight device.id)
  | some control =>
    match control.lights with
    | [] => .error (.notALight device.id)
    | light :: _ =>
      let colorTemp := if control.canSetMireds then Light.supportColorTemp else 0
      let color := if control.canSetColor then Light.supportColor else 0
      .ok
        { deviceId := device.id
          name := device.name
          reachable := device.reachable
          control
          light
          features := lampFeatures ||| colorTemp ||| color }

inductive Resource where
  | device (snapshot : Snapshot)
  | group (group : Group)
  deriving DecidableEq

inductive Action where
  | light (action : LightAction)
  | group (action : GroupAction)
  deriving DecidableEq

structure Lamp where
  resource : Resource
  retry : RetryPolicy := {}
  givenUp : Bool := false
  deriving DecidableEq

namespace Lamp

def ofDevice (device : Device) (retry : RetryPolicy := {}) : Except Error Lamp :=
  (Snapshot.ofDevice device).map fun snapshot => { resource := .device snapshot, retry }

def ofGroup (group : Group) (retry : RetryPolicy := {}) : Lamp :=
  { resource := .group group, retry }

def id (lamp : Lamp) : UInt64 :=
  match lamp.resource with
  | .device snapshot => snapshot.deviceId
  | .group group => group.id

def view (lamp : Lamp) : View :=
  match lamp.resource with
  | .device s =>
    { name := s.name
      available := !lamp.givenUp && s.reachable
      polled := false
      features := s.features
      on := s.light.state
      brightness := some s.light.dimmer
      colorTemp := s.light.colorTemp
      minMireds := some s.control.minMireds
      maxMireds := some s.control.maxMireds
      xyColor := if s.control.canSetColor then s.light.xyColor.map denormalizeXy else none }
  | .group g =>
    { name := g.name
      available := !lamp.givenUp
      polled := false
      features := lampFeatures
      on := g.state
      brightness := some g.dimmer }

/-! ### Reports of the gateway -/

def refreshDevice (lamp : Lamp) (device : Device) : Except Error Lamp :=
  (Snapshot.ofDevice device).map fun snapshot => { lamp with resource := .device snapshot }

def refreshGroup (lamp : Lamp) (group : Group) : Lamp :=
  { lamp with resource := .group group }

def observeCommand (lamp : Lamp) : Command :=
  match lamp.resource with
  | .device s => .observeDevice s.deviceId
  | .group g => .observeGroup g.id

def applyUpdate (lamp : Lamp) (response : Response) : Except Error Lamp :=
  match lamp.resource with
  | .device _ => do lamp.refreshDevice (← response.toDevice lamp.observeCommand)
  | .group _ => do return lamp.refreshGroup (← response.toGroup lamp.observeCommand)

def giveUp (lamp : Lamp) : Lamp :=
  { lamp with givenUp := true }

/-! ### Commands -/

def address (lamp : Lamp) : Action → Command
  | .light action => .light lamp.id action
  | .group action => .group lamp.id action

def devicePlan (s : Snapshot) (params : TurnOnParams) : List LightAction :=
  let time := params.transition.map transitionTime
  -- The dimmer carries the transition if it is set, else the second change does.
  let colorTime := if params.brightness.isSome then none else time
  -- Red, green and blue or kelvins are sent to devices that show their colour in that way.
  let direct :=
    if !s.light.hexColor.isSome then []
    else match params.hsColor with
      | some (hue, saturation) => [.setRgbColor (Color.ofHs hue saturation)]
      | none =>
        match params.colorTemp with
        | some mireds =>
          if s.control.canSetKelvin then [.setKelvinColor (Color.miredToKelvin mireds)] else []
        | none => []
  let xyAction (xy : Float × Float) : LightAction :=
    let (x, y) := normalizeXy xy
    .setXyColor x y colorTime
  let color :=
    match params.xyColor, params.rgbColor, params.colorTemp with
    | some xy, _, _ => [xyAction xy]
    | none, some rgb, _ => [xyAction (Color.xyOfRgb rgb)]
    | none, none, some mireds => [.setColorTemp mireds colorTime]
    | none, none, none => []
  let last :=
    match params.brightness with
    | some brightness => .setDimmer (dimmer brightness) time
    | none => .setState true
  direct ++ color ++ [last]

def groupPlan (params : TurnOnParams) : GroupAction :=
  match params.brightness with
  | some brightness => .setDimmer (dimmer brightness) (params.transition.map transitionTime)
  | none => .setState 1

def turnOnPlan (lamp : Lamp) (params : TurnOnParams) : List Action :=
  match lamp.resource with
  | .device s => (devicePlan s params).map .light
  | .group _ => [.group (groupPlan params)]

def turnOffPlan (lamp : Lamp) : List Action :=
  match lamp.resource with
  | .device _ => [.light (.setState false)]
  | .group _ => [.group (.setState 0)]

def send {σ : Type} (execute : Command → σ → Except Error Response × σ) (lampIn : σ → Lamp) :
    List Action → σ → Except Error Unit × σ
  | [], world => (.ok (), world)
  | action :: rest, world =>
    -- Each is addressed when it is sent, for reports may come in between.
    match execute ((lampIn world).address action) world with
    | (.error e, world) => (.error e, world)
    | (.ok _, world) => send execute lampIn rest world

end Lamp

end HomeHub.Gateway
