import HomeHub.Scenario.Accessories
import HomeHub.Scenario.Events
import HomeHub.Scenario.Watch

/-!
What a step of a scenario has led to, once nothing more can happen without time passing.
-/

namespace HomeHub.Scenario

inductive Announcement where
  | change (change : StateChange)
  | lagged (count : Nat)

structure Report (α : Type) where
  result : Except Problem α
  announcements : List Announcement
  records : List Record
  sent : List Gateway.Command
  observed : List (String × Nat)
  switches : Option (List Bridge.Switch)

def settle : StateM World Unit := do
  let pending := (← get).pending
  modify fun world => { world with pending := [] }
  pending.forM fun (name, value) => discard (runCallback name value)
  settleWatches
  settleBridge

def unread (bus : Bus) : Nat → Receiver → List Announcement × Receiver
  | 0, receiver => ([], receiver)
  | left + 1, receiver =>
    match bus.receiveAs StateChange.ofJson receiver with
    | (.idle, receiver) => ([], receiver)
    | (.lagged count, receiver) =>
      let (rest, receiver) := unread bus left receiver
      (.lagged count :: rest, receiver)
    | (.event event, receiver) =>
      let (rest, receiver) := unread bus left receiver
      (.change event.data :: rest, receiver)

def Announcement.precedes : Announcement → Announcement → Bool
  | .lagged _, _ => true
  | .change _, .lagged _ => false
  | .change a, .change b => (compare a.entityId b.entityId).isLE

def report {α : Type} (result : Except Problem α) : StateM World (Report α) :=
  modifyGet fun world =>
    let log := world.hub.bus.log StateChange.eventType
    let (announcements, reporter) :=
      unread world.hub.bus (log.size - world.reporter.next + 1) world.reporter
    let gateway := world.lights.gateway
    let observing : Gateway.Command → Bool
      | .observeDevice _ => true
      | .observeGroup _ => true
      | _ => false
    ({ result
       announcements := announcements.mergeSort Announcement.precedes
       records := world.records
       sent := gateway.given.filter (!observing ·)
       observed := world.observed
       switches := world.bridge.map (·.switches) },
     { world with
       reporter
       records := []
       observed := []
       lights := world.lights.setGateway { gateway with given := [] } })

def perform {α : Type} (step : Step α) : StateM World (Report α) := do
  let result ← step.run
  settle
  report result

end HomeHub.Scenario
