import HomeHub.Gateway.Setup
import HomeHub.Scenario.World

/-!
Lights in a scenario.
-/

namespace HomeHub.Scenario

open Gateway (Device Group Lamp RetryPolicy)
open Light (Outcome TurnOffParams TurnOnParams View)

def bind (name : String) (handle : Handle) : StateM World Unit :=
  modify fun world => { world with named := world.named.insert name handle }

def makeDemo (name : String) (demo : Demo) : Step Unit := do
  bind name (← withLights (·.addDemo demo))

def demoNamed (name : String) : Step (Nat × Demo) := do
  match ← named World.named name with
  | .demo number =>
    match (← get).lights.demos.find? number with
    | some demo => return (number, demo)
    | none => throw (.unknownName name)
  | .lamp _ => throw (.unknownName name)

def changeDemo (name : String) (change : Demo → Demo) : Step Unit := do
  let (number, demo) ← demoNamed name
  changeLights fun lights =>
    { lights with demos := lights.demos.insert number (change demo) }

def takeNotes (name : String) : Step (List Note) := do
  let (_, demo) ← demoNamed name
  changeDemo name fun demo => { demo with notes := [] }
  return demo.notes

def makeDeviceLamp (name : String) (device : Json) (retry : RetryPolicy) : Step UInt64 := do
  let device ← decode Device.ofJson device
  let lamp ← orProblem .gateway (Lamp.ofDevice device retry)
  bind name (← withLights (·.addLamp lamp))
  return lamp.id

def makeGroupLamp (name : String) (group : Json) (retry : RetryPolicy) : Step UInt64 := do
  let lamp := Lamp.ofGroup (← decode Group.ofJson group) retry
  bind name (← withLights (·.addLamp lamp))
  return lamp.id

def lampNamed (name : String) : Step (Nat × Lamp) := do
  match ← named World.named name with
  | .lamp number =>
    match (← get).lights.lamp? number with
    | some lamp => return (number, lamp)
    | none => throw (.unknownName name)
  | .demo _ => throw (.unknownName name)

def refreshDevice (name : String) (device : Json) : Step UInt64 := do
  let (number, lamp) ← lampNamed name
  let lamp ← orProblem .gateway (lamp.refreshDevice (← decode Device.ofJson device))
  changeLights fun lights => lights.setLamp number lamp
  return lamp.id

def refreshGroup (name : String) (group : Json) : Step UInt64 := do
  let (number, lamp) ← lampNamed name
  let lamp := lamp.refreshGroup (← decode Group.ofJson group)
  changeLights fun lights => lights.setLamp number lamp
  return lamp.id

def viewNamed (name : String) : Step View := do
  return (← get).lights.view (← named World.named name)

def viewOf? (entityId : String) : Step (Option View) := do
  let world ← get
  return (world.component.light? entityId).map world.lights.view

def turnOn (name : String) (params : Json) : Step Unit := do
  let params ← decode TurnOnParams.ofJson params
  let light ← named World.named name
  orProblem .light (← withLights (Lights.control.turnOn light params))

def turnOff (name : String) (params : Json) : Step Unit := do
  let params ← decode TurnOffParams.ofJson params
  let light ← named World.named name
  orProblem .light (← withLights (Lights.control.turnOff light params))

def welcome (world : World) : Light.Registered Handle → World
  | ⟨entityId, .demo number⟩ =>
    let demos := world.lights.demos.modify number (·.note (.added entityId))
    { world with lights := { world.lights with demos } }
  | ⟨entityId, .lamp lamp⟩ => { world with watches := world.watches ++ [{ entityId, lamp }] }

def addLights (handles : List Handle) : StateM World (Except EntityId.Error (List EntityId)) :=
  modifyGet fun world =>
    let (ids, component, hub) := world.component.add world.lights.view world.hub handles
    let added := component.since world.component
    (ids, added.foldl welcome { world with component, hub })

def add (names : List String) : Step (List EntityId) := do
  let handles ← names.mapM (named World.named)
  orProblem .entityId (← addLights handles)

def write (name entityId : String) (context : Option Context) : Step State := do
  let id ← parseId entityId
  let shown ← viewNamed name
  let context ← contextOr context
  withHub fun hub => hub.setLight id shown context

def stopLights : Step Unit :=
  modify fun world => { world with watches := [] }

def changeGateway (change : SimulatedGateway → SimulatedGateway) : Step Unit :=
  changeLights fun lights => lights.setGateway (change lights.gateway)

def installGateway (config : Gateway.Config) :
    StateM World (Except Gateway.Error (List EntityId)) :=
  modifyGet fun world =>
    let view fleet := { world.lights with fleet }.view
    let done := Gateway.setUp SimulatedGateway.answer config .lamp view world.lights.fleet
      world.component world.hub
    let lights := { world.lights with fleet := done.fleet }
    let world := { world with lights, component := done.component, hub := done.hub }
    (done.result, done.observed.foldl welcome world)

def setUpGateway (config : Json) : Step (List EntityId) := do
  let config ← orProblem .config (Gateway.Config.ofYaml (.ofJson config))
  orProblem .gateway (← installGateway config)

end HomeHub.Scenario
