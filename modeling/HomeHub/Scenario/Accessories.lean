import HomeHub.Scenario.Service

/-!
The bridge, single switches and single characteristics in a scenario.
-/

namespace HomeHub.Scenario

open Bridge (Accessory Characteristic Config Format Switch Types)

/-! ### The bridge -/

def typesFor (none : Bool) : Types :=
  if none then ∅ else Bridge.builtinTypes

def readConfig : Option Json → Step Config
  | some config => orProblem .config (Config.ofYaml (.ofJson config))
  | none => pure {}

def buildBridge (config : Option Json) (types : Types) : Step Bridge := do
  let config ← readConfig config
  let bridge ← orProblem .bridge (Bridge.build types config (← get).hub.states.values)
  modify fun world => { world with bridge := some bridge }
  return bridge

def changeBridge (change : World → Bridge → Bridge) : Step Unit :=
  modify fun world => { world with bridge := world.bridge.map (change world) }

def startBridge : Step Unit :=
  changeBridge fun world bridge => bridge.start world.hub

def stopBridge : Step Unit :=
  changeBridge fun _ bridge => bridge.stop

def dropBridge : Step Unit :=
  modify fun world => { world with bridge := none }

def theBridge : Step Bridge := do
  match (← get).bridge with
  | some bridge => return bridge
  | none => throw (.unknownName "bridge")

def accessory? (aid : Nat) : Step (Option Accessory) := do
  return ((← theBridge).switch? aid).map (·.accessory)

def clientWrite (aid : Nat) (characteristic : String) (value : Json) : Step Unit := do
  let bridge ← theBridge
  let writing : StateM World (Except Bridge.Error Unit × Bridge) :=
    bridge.write callRequest aid characteristic value
  let (result, bridge) ← writing
  modify fun world => { world with bridge := some bridge }
  orProblem .bridge result

/-! ### Single accessories -/

def brokenFactory : Bridge.Factory := fun _ name aid => .error (.unknownCharacteristic aid name)

def accessoryFor (entityId : String) (attributes : Json.Object) (aid : Json)
    (config : Option Json) (types : Types) : Step (Option Accessory) := do
  let id ← parseId entityId
  let aid ← decode Json.Decode.uint64 aid
  let config ← readConfig config
  let context ← contextOr none
  let (now, _) := (← get).hub.readClock
  let state := State.new now id State.off attributes context
  let switch ← orProblem .bridge (Bridge.accessoryFor types config state aid.toNat)
  return switch.map (·.accessory)

def makeAccessory (name entityId : String) (aid : Json) (services : List String) :
    Step Accessory := do
  let id ← parseId entityId
  let aid ← decode Json.Decode.uint64 aid
  orProblem .bridge do
    services.foldlM Accessory.attach (← Accessory.new name id Bridge.switchCategory aid.toNat)

/-! ### Single switches -/

def putSwitch (name : String) (switch : Switch) : StateM World Unit :=
  modify fun world => { world with switches := world.switches.insert name switch }

def makeSwitch (name entityId displayName : String) (aid : Json) : Step Accessory := do
  let id ← parseId entityId
  let aid ← decode Json.Decode.uint64 aid
  let switch ← orProblem .bridge (Switch.new id displayName aid.toNat)
  putSwitch name switch
  modify fun world => { world with knobs := world.knobs.insert name ⟨none, .command⟩ }
  return switch.accessory

def commandSwitch (name : String) (switch : Switch) (value : Bool) :
    StateM World (Except Bridge.Error Unit) := do
  let (switch, request) := switch.command value
  putSwitch name switch
  return (← callRequest request).mapError .service

def setSwitch (name : String) (value : Json) : Step (Except Bridge.Error Unit × Switch) := do
  let value ← decode Json.Decode.boolean value
  let result ← commandSwitch name (← named World.switches name) value
  return (result, ← named World.switches name)

def updateSwitch (name : String) (value : Option String) : Step Switch := do
  let switch ← named World.switches name
  let context ← contextOr none
  let (now, _) := (← get).hub.readClock
  let switch := switch.reflect <|
    value.map fun value => State.new now switch.entityId value [] context
  putSwitch name switch
  return switch

def switchNamed (name : String) : Step Switch :=
  named World.switches name

/-! ### Single characteristics -/

def onOf (switch : Switch) : Characteristic :=
  (switch.accessory.characteristic? Bridge.onName).getD (.new Bridge.onName .bool)

def dropSwitch (name : String) : Step Bool := do
  match (← get).switches.find? name with
  | none => return false
  | some switch =>
    let loosen (knob : Knob) : Knob := { knob with loose := knob.loose.or (onOf switch) }
    modify fun world =>
      { world with
        switches := world.switches.erase name
        knobs := world.knobs.modify name loosen }
    return true

def makeCharacteristic (name title : String) (format : Format) : Step Unit :=
  modify fun world =>
    { world with knobs := world.knobs.insert name ⟨some (.new title format), .nothing⟩ }

def setCallback (name tag : String) (failure : Option String) : Step Unit := do
  let knob ← named World.knobs name
  modify fun world =>
    { world with knobs := world.knobs.insert name { knob with setter := .scripted tag failure } }

def characteristicNamed (name : String) : Step Characteristic := do
  match (← named World.knobs name).loose with
  | some characteristic => return characteristic
  | none => return onOf (← named World.switches name)

def storeCharacteristic (name : String) (value : Json) : Step Unit := do
  let knob ← named World.knobs name
  match knob.loose with
  | some characteristic => do
    let characteristic ← orProblem .bridge (characteristic.store value)
    modify fun world =>
      { world with knobs := world.knobs.insert name { knob with loose := some characteristic } }
  | none => do
    let switch ← named World.switches name
    let accessory ← orProblem .bridge (switch.accessory.store Bridge.onName value)
    putSwitch name { switch with accessory }

def runCallback (name : String) (value : Json) : StateM World (Except Bridge.Error Unit) := do
  let world ← get
  let setter : Setter := ((world.knobs.find? name).map (·.setter)).getD .nothing
  match setter with
  | .nothing => return .ok ()
  | .command =>
    match world.switches.find? name, value with
    | some switch, .bool b => commandSwitch name switch b
    | some _, value => return .error (.invalidValue Bridge.onName value)
    | none, _ => return .ok ()
  | .scripted tag failure => do
    record (.callback tag value)
    match failure with
    | some text => return .error (.service (.callFailed text))
    | none => return .ok ()

def setCharacteristic (name : String) (value : Json) (withCallback : Bool) : Step Unit := do
  storeCharacteristic name value
  if withCallback then
    modify fun world => { world with pending := world.pending ++ [(name, value)] }

def writeCharacteristic (name : String) (value : Json) : Step Unit := do
  storeCharacteristic name value
  orProblem .bridge (← runCallback name value)

end HomeHub.Scenario
