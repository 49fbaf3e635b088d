import HomeHub.Hub

/-!
What a light shows of itself, and the state that the hub keeps of it.
-/

namespace HomeHub.Light

def supportBrightness : UInt32 := 1

def supportColorTemp : UInt32 := 2

def supportColor : UInt32 := 16

def supportTransition : UInt32 := 32

structure View where
  name : String
  available : Bool := true
  /-- Whether the hub has to ask for the state after a command. -/
  polled : Bool := true
  features : UInt32
  on : Bool
  brightness : Option UInt8 := none
  colorTemp : Option UInt16 := none
  minMireds : Option UInt16 := none
  maxMireds : Option UInt16 := none
  xyColor : Option (Float × Float) := none
  hsColor : Option (Float × Float) := none

namespace View

def absent : View :=
  { name := "", features := 0, on := false }

def supports (view : View) (flag : UInt32) : Bool :=
  view.features &&& flag != 0

def present (members : List (String × Option Json)) : List (String × Json) :=
  members.filterMap fun (key, value) => value.map (key, ·)

def word16 (n : UInt16) : Json :=
  .int n.toNat

def pair (xy : Float × Float) : Json :=
  .arr [Json.ofFloat xy.1, Json.ofFloat xy.2]

def attributes (view : View) : Json.Object :=
  Json.Object.ofList <|
    [(State.friendlyName, .str view.name), ("supported_features", .int view.features.toNat)] ++
    (if view.supports supportColorTemp then
      present [("min_mireds", view.minMireds.map word16), ("max_mireds", view.maxMireds.map word16)]
    else []) ++
    (if view.on then
      present
        [("brightness", view.brightness.map fun n => .int n.toNat),
         ("color_temp", view.colorTemp.map word16),
         ("hs_color", view.hsColor.map pair),
         ("xy_color", view.xyColor.map pair)]
    else [])

def value (view : View) : String :=
  if !view.available then State.unavailable else if view.on then State.on else State.off

end View

end Light

def Hub.setLight (hub : Hub) (entityId : EntityId) (view : Light.View) (context : Context) :
    State × Hub :=
  hub.set entityId view.value view.attributes context

def Hub.showLight (hub : Hub) (entityId : EntityId) (view : Light.View) : Hub :=
  let (context, hub) := hub.newContext
  (hub.setLight entityId view context).2

def Hub.showPolled (hub : Hub) (entityId : EntityId) (view : Light.View) (context : Context) :
    Hub :=
  if view.polled then
    let (context, hub) := hub.childContext context
    (hub.setLight entityId view context).2
  else hub

end HomeHub
