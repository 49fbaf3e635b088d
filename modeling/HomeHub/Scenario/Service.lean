import HomeHub.Scenario.World

/-!
Services in a scenario: those of the light component, and scripted ones, which may call each other.
-/

namespace HomeHub.Scenario

abbrev Called := StateM World (Except ServiceError Unit)

def serveLights (serve : Light.Component Handle → Light.Control Lights Handle → ServiceCall →
    Lights → Hub → Except ServiceError Unit × Lights × Hub) (call : ServiceCall) : Called :=
  modifyGet fun world =>
    let (result, lights, hub) :=
      serve world.component Lights.control call world.lights world.hub
    (result, { world with lights, hub })

def writeTargets (value : String) (attributes : Json.Object) (call : ServiceCall) :
    StateM World Unit :=
  call.entityIds.forM fun text =>
    match EntityId.parse text with
    | .ok id => changeHub fun hub => (hub.set id value attributes call.context).2
    | .error _ => pure ()

def Behavior.run (callNext : String → String → Json → Context → Called) (behavior : Behavior)
    (call : ServiceCall) : Called := do
  record (.call behavior.tag call)
  if let some value := behavior.value then
    writeTargets value behavior.attributes call
  let failure : Except ServiceError Unit := match behavior.failure with
    | some e => .error e
    | none => .ok ()
  match behavior.next with
  | none => return failure
  | some (domain, service, data) =>
    let context ← withHub fun hub => hub.childContext call.context
    match ← callNext domain service data context with
    | .error e => return .error e
    | .ok () => return failure

def Handler.run (callNext : String → String → Json → Context → Called) :
    Handler → ServiceCall → Called
  | .lightsOn => serveLights Light.Component.turnOn
  | .lightsOff => serveLights Light.Component.turnOff
  | .scripted behavior => behavior.run callNext

def callWithin : Nat → String → String → Json → Context → Called
  | 0, domain, service, _, _ => pure (.error (.notFound domain service))
  | depth + 1, domain, service, data, context => do
    (← get).services.call (Handler.run (callWithin depth)) domain service data context

def callService (domain service : String) (data : Json) (context : Context) : Called := do
  callWithin ((← get).services.handlers.size + 1) domain service data context

def callRequest (request : Bridge.Request) : Called := do
  callService request.domain request.service request.data (← withHub Hub.newContext)

/-! ### Steps -/

def register (domain service : String) (handler : Handler) : Step Unit :=
  modify fun world => { world with services := world.services.register domain service handler }

def registerLights : Step Unit := do
  register Light.domain Light.turnOnService .lightsOn
  register Light.domain Light.turnOffService .lightsOff

def call (domain service : String) (data : Json) (context : Option Context) : Step Unit := do
  orProblem .service (← callService domain service data (← contextOr context))

end HomeHub.Scenario
