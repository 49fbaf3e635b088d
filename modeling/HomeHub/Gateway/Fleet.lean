import HomeHub.Gateway.Observation
import HomeHub.Light.Component
import HomeHub.Table

/-!
The lamps of one gateway, as lights that the light component can switch.
-/

namespace HomeHub.Gateway

open Light (Control Outcome TurnOnParams View)

structure Fleet (γ κ : Type) where
  gateway : γ
  lamps : Table κ Lamp := ∅

namespace Fleet

/-! ### Numbered lamps -/

section

variable {γ : Type}

def next (fleet : Fleet γ Nat) : Nat :=
  fleet.lamps.keys.foldr (fun number next => max (number + 1) next) 0

def keep (fleet : Fleet γ Nat) (lamp : Lamp) : Nat × Fleet γ Nat :=
  (fleet.next, { fleet with lamps := fleet.lamps.insert fleet.next lamp })

def keepAll (fleet : Fleet γ Nat) : List Lamp → List Nat × Fleet γ Nat
  | [] => ([], fleet)
  | lamp :: rest =>
    let (number, fleet) := fleet.keep lamp
    let (numbers, fleet) := fleet.keepAll rest
    (number :: numbers, fleet)

end

/-! ### Lamps as lights -/

variable {γ κ : Type} [DecidableEq κ]

def view (fleet : Fleet γ κ) (handle : κ) : View :=
  ((fleet.lamps.find? handle).map (·.view)).getD .absent

def execute (api : Api γ) (command : Command) (fleet : Fleet γ κ) :
    Except Error Response × Fleet γ κ :=
  let (answer, gateway) := api command fleet.gateway
  (answer, { fleet with gateway })

def carryOut (api : Api γ) (plan : Lamp → List Action) (handle : κ) (fleet : Fleet γ κ) :
    Outcome × Fleet γ κ :=
  match fleet.lamps.find? handle with
  | none => (.ok (), fleet)
  | some lamp =>
    let lampIn (fleet : Fleet γ κ) := (fleet.lamps.find? handle).getD lamp
    let (result, fleet) := Lamp.send (execute api) lampIn (plan lamp) fleet
    (result.mapError fun e => ⟨e.message⟩, fleet)

def turnOn (api : Api γ) (handle : κ) (params : TurnOnParams) (fleet : Fleet γ κ) :
    Outcome × Fleet γ κ :=
  fleet.carryOut api (·.turnOnPlan params) handle

def turnOff (api : Api γ) (handle : κ) (fleet : Fleet γ κ) : Outcome × Fleet γ κ :=
  fleet.carryOut api Lamp.turnOffPlan handle

def control (api : Api γ) : Control (Fleet γ κ) κ where
  view := view
  turnOn := turnOn api
  turnOff handle _ := turnOff api handle

end Fleet

end HomeHub.Gateway
