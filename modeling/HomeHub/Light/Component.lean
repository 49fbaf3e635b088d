import HomeHub.EntityId.Generate
import HomeHub.Light.Params
import HomeHub.Light.View
import HomeHub.Service.Registry

/-!
The light component: the lights that have been added to the hub, and the services that switch them.
-/

namespace HomeHub.Light

def domain : String := "light"

def turnOnService : String := "turn_on"

def turnOffService : String := "turn_off"

structure Failure where
  cause : String
  deriving DecidableEq, Repr

def Failure.message (failure : Failure) : String :=
  "light command failed: " ++ failure.cause

abbrev Outcome := Except Failure Unit

/--
How lights of some kind are seen and switched. A light is known by a handle of type `κ`; what there
is to know about all of them is of type `σ`.
-/
structure Control (σ κ : Type) where
  view : σ → κ → View
  turnOn : κ → TurnOnParams → σ → Outcome × σ
  turnOff : κ → TurnOffParams → σ → Outcome × σ

structure Registered (κ : Type) where
  entityId : EntityId
  light : κ

structure Component (κ : Type) where
  lights : Table String (Registered κ) := ∅

namespace Component

variable {σ κ : Type}

def light? (component : Component κ) (entityId : String) : Option κ :=
  (component.lights.find? entityId).map (·.light)

def isTaken (component : Component κ) (hub : Hub) (id : EntityId) : Bool :=
  component.lights.contains id.text || hub.states.contains id.text

def register (component : Component κ) (id : EntityId) (light : κ) : Component κ :=
  { lights := component.lights.insert id.text ⟨id, light⟩ }

def add (view : κ → View) (component : Component κ) (hub : Hub) :
    List κ → Except EntityId.Error (List EntityId) × Component κ × Hub
  | [] => (.ok [], component, hub)
  | light :: rest =>
    match EntityId.generate domain (view light).name (component.isTaken hub) with
    | .error e => (.error e, component, hub)
    | .ok id =>
      -- The state is written before the light is registered.
      let hub := hub.showLight id (view light)
      let (ids, component, hub) := add view (component.register id light) hub rest
      (ids.map (id :: ·), component, hub)

def since (component earlier : Component κ) : List (Registered κ) :=
  component.lights.values.drop earlier.lights.size

def targets (component : Component κ) (call : ServiceCall) : List (Registered κ) :=
  call.entityIds.filterMap component.lights.find?

def dispatch (view : σ → κ → View) (command : κ → σ → Outcome × σ) (context : Context) :
    List (Registered κ) → σ → Hub → Except ServiceError Unit × σ × Hub
  | [], lights, hub => (.ok (), lights, hub)
  | target :: rest, lights, hub =>
    match command target.light lights with
    | (.error failure, lights) => (.error (.callFailed failure.message), lights, hub)
    | (.ok (), lights) =>
      -- The state of a light that is polled is written right after its command.
      let hub := hub.showPolled target.entityId (view lights target.light) context
      dispatch view command context rest lights hub

def serve {π : Type} (component : Component κ) (view : σ → κ → View) (decode : Json.Decoder π)
    (command : π → κ → σ → Outcome × σ) (call : ServiceCall) (lights : σ) (hub : Hub) :
    Except ServiceError Unit × σ × Hub :=
  match decode call.data with
  | .error e => (.error (.invalidData (Json.errorMessage e)), lights, hub)
  | .ok params => dispatch view (command params) call.context (component.targets call) lights hub

def turnOn (component : Component κ) (control : Control σ κ) (call : ServiceCall) (lights : σ)
    (hub : Hub) : Except ServiceError Unit × σ × Hub :=
  component.serve control.view TurnOnParams.ofJson (fun params light => control.turnOn light params)
    call lights hub

def turnOff (component : Component κ) (control : Control σ κ) (call : ServiceCall) (lights : σ)
    (hub : Hub) : Except ServiceError Unit × σ × Hub :=
  component.serve control.view TurnOffParams.ofJson
    (fun params light => control.turnOff light params) call lights hub

end Component

end HomeHub.Light
