import HomeHub.Bridge.Accessory
import HomeHub.State.Basic

/-!
Switches: accessories for entities that are on or off. What a client writes becomes a service call,
and the state change that it causes is not pushed back to the client.
-/

namespace HomeHub.Bridge

structure Request where
  domain : String
  service : String
  data : Json

def serviceFor (value : Bool) : String :=
  if value then "turn_on" else "turn_off"

def Request.move (entityId : EntityId) (value : Bool) : Request where
  domain := entityId.domain
  service := serviceFor value
  data := .obj [("entity_id", .str entityId.text)]

structure Switch where
  accessory : Accessory
  /-- Whether a command of a client waits for the state change it causes. -/
  awaiting : Bool := false

namespace Switch

def entityId (switch : Switch) : EntityId :=
  switch.accessory.entityId

def aid (switch : Switch) : Nat :=
  switch.accessory.aid

def new (entityId : EntityId) (displayName : String) (aid : Nat) : Except Error Switch := do
  let accessory ← (← Accessory.new displayName entityId switchCategory aid).attach switchService
  return { accessory := ← accessory.store onName (.bool false) }

def on? (switch : Switch) : Option Json :=
  (switch.accessory.characteristic? onName).map (·.value)

def command (switch : Switch) (value : Bool) : Switch × Request :=
  ({ switch with awaiting := true }, .move switch.entityId value)

def write (switch : Switch) (characteristic : String) (value : Json) :
    Except Error (Switch × Option Request) := do
  let stored := { switch with accessory := ← switch.accessory.store characteristic value }
  if characteristic = onName then
    match value with
    | .bool b =>
      let (commanded, request) := stored.command b
      return (commanded, some request)
    | _ => throw (.invalidValue characteristic value)
  else return (stored, none)

def setValue (switch : Switch) (characteristic : String) (value : Json) (withSetter : Bool) :
    Except Error (Switch × Option Request) :=
  if withSetter then switch.write characteristic value
  else
    (switch.accessory.store characteristic value).map fun accessory =>
      ({ switch with accessory }, none)

def update (switch : Switch) : Option State → Switch × Option Request
  | none => (switch, none)
  | some state =>
    -- The change that a command waits for is on show already.
    let (shown, request) :=
      if switch.awaiting then (switch, none)
      else
        match switch.setValue onName (.bool state.isOn) false with
        | .ok pushed => pushed
        | .error _ => (switch, none)
    ({ shown with awaiting := false }, request)

def reflect (switch : Switch) (news : Option State) : Switch :=
  (switch.update news).1

end Switch

end HomeHub.Bridge
