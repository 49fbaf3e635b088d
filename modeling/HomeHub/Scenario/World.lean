import HomeHub.Bridge.Basic
import HomeHub.Light.Component
import HomeHub.Scenario.Lights

/-!
The world of a scenario: a hub with everything that is attached to it, and a clock that stands still
unless it is moved.
-/

namespace HomeHub.Scenario

structure Behavior where
  tag : Option String := none
  value : Option String := none
  attributes : Json.Object := []
  next : Option (String × String × Json) := none
  failure : Option ServiceError := none

inductive Handler where
  | lightsOn
  | lightsOff
  | scripted (behavior : Behavior)

inductive Record where
  | call (tag : Option String) (call : ServiceCall)
  | callback (tag : String) (value : Json)

inductive Phase where
  | due
  | waiting (target : String)
  | asleep (wakes : Nat)

structure Watch where
  entityId : EntityId
  lamp : Nat
  failures : Nat := 0
  phase : Phase := .due

structure Subscription where
  receiver : Receiver
  typed : Bool
  closed : Option Bus := none

inductive Setter where
  | nothing
  | command
  | scripted (tag : String) (failure : Option String)

structure Knob where
  loose : Option Bridge.Characteristic
  setter : Setter

structure World where
  now : Nat := 0
  hub : Hub := { surroundings := .simulated }
  services : Registry Handler := {}
  component : Light.Component Handle := {}
  lights : Lights := {}
  named : Table String Handle := ∅
  watches : List Watch := []
  bridge : Option Bridge := none
  switches : Table String Bridge.Switch := ∅
  knobs : Table String Knob := ∅
  pending : List (String × Json) := []
  subscriptions : Table String Subscription := ∅
  reporter : Receiver := ⟨StateChange.eventType, 0⟩
  records : List Record := []
  observed : List (String × Nat) := []

inductive Problem where
  | entityId (error : EntityId.Error)
  | decoding (error : Decoding.Error)
  | service (error : ServiceError)
  | bridge (error : Bridge.Error)
  | gateway (error : Gateway.Error)
  | light (failure : Light.Failure)
  | config (error : ConfigError)
  | unknownName (name : String)

abbrev Step (α : Type) := ExceptT Problem (StateM World) α

/-! ### Small steps -/

def orProblem {ε α : Type} (problem : ε → Problem) : Except ε α → Step α
  | .ok a => pure a
  | .error e => throw (problem e)

def parseId (text : String) : Step EntityId :=
  orProblem .entityId (EntityId.parse text)

def decode {α : Type} (decoder : Json.Decoder α) (v : Json) : Step α :=
  orProblem .decoding (decoder v)

section

variable {m : Type → Type} [Monad m] [MonadStateOf World m] {α : Type}

def withHub (act : Hub → α × Hub) : m α :=
  modifyGet fun world =>
    let (a, hub) := act world.hub
    (a, { world with hub })

def changeHub (act : Hub → Hub) : m Unit :=
  modify fun world => { world with hub := act world.hub }

def withLights (act : Lights → α × Lights) : m α :=
  modifyGet fun world =>
    let (a, lights) := act world.lights
    (a, { world with lights })

def changeLights (act : Lights → Lights) : m Unit :=
  modify fun world => { world with lights := act world.lights }

def contextOr : Option Context → m Context
  | some context => pure context
  | none => withHub Hub.newContext

def record (r : Record) : m Unit :=
  modify fun world => { world with records := world.records ++ [r] }

end

def named {α : Type} (table : World → Table String α) (name : String) : Step α := do
  match (table (← get)).find? name with
  | some a => pure a
  | none => throw (.unknownName name)

end HomeHub.Scenario
