import HomeHub.Gateway.Response
import HomeHub.Table

/-!
A simulated gateway: it answers commands from tables, and observations by results that have been
pushed to it.
-/

namespace HomeHub.Scenario

open Gateway (Api Command Device Error Group Response)

structure SimulatedGateway where
  devices : Table UInt64 Device := ∅
  groups : Table UInt64 Group := ∅
  fixed : Table String (Except Error Response) := ∅
  offline : Bool := false
  sendsLeft : Option Nat := none
  pushed : Table String (List (Except Error Response)) := ∅
  given : List Command := []

def label : Command → String
  | .listDevices => "list_devices"
  | .listGroups => "list_groups"
  | .getDevice id => "get_device:" ++ toString id.toNat
  | .getGroup id => "get_group:" ++ toString id.toNat
  | .observeDevice id => "device:" ++ toString id.toNat
  | .observeGroup id => "group:" ++ toString id.toNat
  | .light id _ => "light:" ++ toString id.toNat
  | .group id _ => "group:" ++ toString id.toNat

namespace SimulatedGateway

def offlineError : Error :=
  .gateway "gateway offline"

def ascending (ids : List UInt64) : List UInt64 :=
  ids.mergeSort fun a b => a ≤ b

def send (gateway : SimulatedGateway) : Except Error Response × SimulatedGateway :=
  match gateway.sendsLeft with
  | none => (.ok .ack, gateway)
  | some 0 => (.error (.gateway "request timed out"), gateway)
  | some (left + 1) => (.ok .ack, { gateway with sendsLeft := some left })

def takePushed (gateway : SimulatedGateway) (target : String) :
    Option (Except Error Response) × SimulatedGateway :=
  match gateway.pushed.find? target with
  | some (result :: rest) =>
    (some result, { gateway with pushed := gateway.pushed.insert target rest })
  | _ => (none, gateway)

def push (gateway : SimulatedGateway) (target : String) (results : List (Except Error Response)) :
    SimulatedGateway :=
  let waiting := (gateway.pushed.find? target).getD []
  { gateway with pushed := gateway.pushed.insert target (waiting ++ results) }

def pushedCount (gateway : SimulatedGateway) : Nat :=
  (gateway.pushed.values.map List.length).foldl (· + ·) 0

def look (gateway : SimulatedGateway) : Command → Except Error Response × SimulatedGateway
  | .listDevices => (.ok (.deviceIds (ascending gateway.devices.keys)), gateway)
  | .listGroups => (.ok (.groupIds (ascending gateway.groups.keys)), gateway)
  | .getDevice id =>
    match gateway.devices.find? id with
    | some device => (.ok (.device device), gateway)
    | none => (.error (.gateway ("device " ++ toString id.toNat ++ " not found")), gateway)
  | .getGroup id =>
    match gateway.groups.find? id with
    | some group => (.ok (.group group), gateway)
    | none => (.error (.gateway ("group " ++ toString id.toNat ++ " not found")), gateway)
  | .light _ _ => gateway.send
  | .group _ _ => gateway.send
  | .observeDevice _ => (.error (.gateway "nothing to report"), gateway)
  | .observeGroup _ => (.error (.gateway "nothing to report"), gateway)

def answer : Api SimulatedGateway := fun command gateway =>
  let gateway := { gateway with given := gateway.given ++ [command] }
  if gateway.offline then (.error offlineError, gateway)
  else
    match gateway.fixed.find? (label command) with
    | some answer => (answer, gateway)
    | none => gateway.look command

end SimulatedGateway

end HomeHub.Scenario
