import HomeHub.Gateway.Fleet
import HomeHub.Scenario.Gateway

/-!
The lights of a scenario: the lamps of the simulated gateway, and demonstration lights that do as
they are told.
-/

namespace HomeHub.Scenario

open Light (Control Failure Outcome TurnOffParams TurnOnParams View)

inductive Note where
  | added (entityId : EntityId)
  | turnOn (params : TurnOnParams)
  | turnOff (params : TurnOffParams)

structure Demo where
  view : View
  dimmable : Bool := true
  refusal : Option String := none
  notes : List Note := []

namespace Demo

def note (demo : Demo) (n : Note) : Demo :=
  { demo with notes := demo.notes ++ [n] }

def obey (demo : Demo) (change : View → View) : Outcome × Demo :=
  match demo.refusal with
  | some cause => (.error ⟨cause⟩, demo)
  | none => (.ok (), { demo with view := change demo.view })

def turnOn (params : TurnOnParams) (demo : Demo) : Outcome × Demo :=
  (demo.note (.turnOn params)).obey fun view =>
    { view with
      on := true
      brightness :=
        if demo.dimmable then params.brightness.or view.brightness else view.brightness }

def turnOff (params : TurnOffParams) (demo : Demo) : Outcome × Demo :=
  (demo.note (.turnOff params)).obey fun view => { view with on := false }

end Demo

inductive Handle where
  | demo (number : Nat)
  | lamp (number : Nat)
  deriving DecidableEq

structure Lights where
  fleet : Gateway.Fleet SimulatedGateway Nat := { gateway := {} }
  demos : Table Nat Demo := ∅

namespace Lights

def addDemo (lights : Lights) (demo : Demo) : Handle × Lights :=
  let number := lights.demos.size
  (.demo number, { lights with demos := lights.demos.insert number demo })

def addLamp (lights : Lights) (lamp : Gateway.Lamp) : Handle × Lights :=
  let (number, fleet) := lights.fleet.keep lamp
  (.lamp number, { lights with fleet })

def lamp? (lights : Lights) (number : Nat) : Option Gateway.Lamp :=
  lights.fleet.lamps.find? number

def setLamp (lights : Lights) (number : Nat) (lamp : Gateway.Lamp) : Lights :=
  { lights with fleet := { lights.fleet with lamps := lights.fleet.lamps.insert number lamp } }

def gateway (lights : Lights) : SimulatedGateway :=
  lights.fleet.gateway

def setGateway (lights : Lights) (gateway : SimulatedGateway) : Lights :=
  { lights with fleet := { lights.fleet with gateway } }

def view (lights : Lights) : Handle → View
  | .demo number => ((lights.demos.find? number).map (·.view)).getD .absent
  | .lamp number => lights.fleet.view number

def command (lights : Lights) (number : Nat) (act : Demo → Outcome × Demo) : Outcome × Lights :=
  match lights.demos.find? number with
  | none => (.ok (), lights)
  | some demo =>
    let (outcome, demo) := act demo
    (outcome, { lights with demos := lights.demos.insert number demo })

def inFleet (lights : Lights)
    (act : Gateway.Fleet SimulatedGateway Nat → Outcome × Gateway.Fleet SimulatedGateway Nat) :
    Outcome × Lights :=
  let (outcome, fleet) := act lights.fleet
  (outcome, { lights with fleet })

def lampControl : Control (Gateway.Fleet SimulatedGateway Nat) Nat :=
  Gateway.Fleet.control SimulatedGateway.answer

def control : Control Lights Handle where
  view := view
  turnOn
    | .demo number, params, lights => lights.command number (Demo.turnOn params)
    | .lamp number, params, lights => lights.inFleet (lampControl.turnOn number params)
  turnOff
    | .demo number, params, lights => lights.command number (Demo.turnOff params)
    | .lamp number, params, lights => lights.inFleet (lampControl.turnOff number params)

end Lights

end HomeHub.Scenario
