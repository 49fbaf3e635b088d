import HomeHub.Gateway.Config
import HomeHub.Gateway.Fleet

/-!
Setting up a gateway: finding the lamps it has, and adding them to the lights.
-/

namespace HomeHub.Gateway

open Light (Component Registered View)

variable {γ : Type}

def ask {α : Type} (api : Api γ) (command : Command) (read : Command → Response → Except Error α)
    (gateway : γ) : Except Error α × γ :=
  let (answer, gateway) := api command gateway
  (answer >>= read command, gateway)

def askEach {α : Type} (api : Api γ) (command : UInt64 → Command)
    (read : Command → Response → Except Error α) (lamps : α → Except Error (List Lamp)) :
    List UInt64 → γ → Except Error (List Lamp) × γ
  | [], gateway => (.ok [], gateway)
  | id :: rest, gateway =>
    match ask api (command id) read gateway with
    | (.error e, gateway) => (.error e, gateway)
    | (.ok answer, gateway) =>
      match lamps answer with
      | .error e => (.error e, gateway)
      | .ok found =>
        let (others, gateway) := askEach api command read lamps rest gateway
        (others.map (found ++ ·), gateway)

def lampsOfDevice (retry : RetryPolicy) (device : Device) : Except Error (List Lamp) :=
  match Lamp.ofDevice device retry with
  | .ok lamp => .ok [lamp]
  -- Only a device without a light is passed over.
  | .error (.notALight _) => .ok []
  | .error e => .error e

def discover {α : Type} (api : Api γ) (list : Command) (command : UInt64 → Command)
    (read : Command → Response → Except Error α) (lamps : α → Except Error (List Lamp))
    (gateway : γ) :
    Except Error (List Lamp) × γ :=
  match ask api list (fun c r => r.ids c) gateway with
  | (.error e, gateway) => (.error e, gateway)
  | (.ok ids, gateway) => askEach api command read lamps ids gateway

def findLamps (api : Api γ) (config : Config) (gateway : γ) : Except Error (List Lamp) × γ :=
  let retry := config.observe.retryPolicy
  match discover api .listDevices .getDevice (fun c r => r.toDevice c) (lampsOfDevice retry)
      gateway with
  | (.error e, gateway) => (.error e, gateway)
  | (.ok devices, gateway) =>
    if config.allowGroups then
      let (groups, gateway) :=
        discover api .listGroups .getGroup (fun c r => r.toGroup c)
          (fun group => .ok [Lamp.ofGroup group retry]) gateway
      (groups.map (devices ++ ·), gateway)
    else (.ok devices, gateway)

structure Installation (γ κ : Type) where
  result : Except Error (List EntityId)
  fleet : Fleet γ Nat
  component : Component κ
  hub : Hub
  observed : List (Registered κ) := []

def setUp {κ : Type} (api : Api γ) (config : Config) (handle : Nat → κ)
    (view : Fleet γ Nat → κ → View) (fleet : Fleet γ Nat) (component : Component κ) (hub : Hub) :
    Installation γ κ :=
  let (found, gateway) := findLamps api config fleet.gateway
  let fleet := { fleet with gateway }
  match found with
  | .error e => { result := .error e, fleet, component, hub }
  | .ok lamps =>
    let (numbers, fleet) := fleet.keepAll lamps
    let (ids, later, hub) := component.add (view fleet) hub (numbers.map handle)
    { result := ids.mapError .entityId
      fleet
      component := later
      hub
      observed := later.since component }

end HomeHub.Gateway
