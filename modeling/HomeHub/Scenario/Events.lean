import HomeHub.Scenario.World

/-!
States and events in a scenario.
-/

namespace HomeHub.Scenario

def setState (entityId value : String) (attributes : Json.Object) (context : Option Context) :
    Step State := do
  let id ← parseId entityId
  let context ← contextOr context
  withHub fun hub => hub.set id value attributes context

def setMany (entityId : String) (values : List String) (count : Nat) : Step Unit := do
  let id ← parseId entityId
  (List.range count).forM fun i => do
    let context ← contextOr none
    let value := values.getD (i % values.length) ""
    changeHub fun hub => (hub.set id value [] context).2

def allStates : Step (List State) := do
  return (← get).hub.states.values.mergeSort fun a b => (compare a.entityId b.entityId).isLE

def numbered (data : Json) (n : Nat) : Json :=
  match data with
  | .obj members => .obj (Json.Object.insert "n" (.int n) members)
  | data => data

def fire (eventType : String) (data : Json) (context : Option Context) (count : Nat)
    (isNumbered : Bool) : Step Unit :=
  (List.range count).forM fun n => do
    let context ← contextOr context
    let data := if isNumbered then numbered data n else data
    changeHub fun hub => hub.fire eventType data context

def announce (entityId : String) (old new : Option String) (context : Option Context) :
    Step Unit := do
  let id ← parseId entityId
  let context ← contextOr context
  let bare (value : String) : Step State := withHub fun hub =>
    let (now, hub) := hub.readClock
    (State.new now id value [] context, hub)
  let old ← old.mapM bare
  let new ← new.mapM bare
  changeHub fun hub => hub.announce ⟨id, old, new⟩ context

/-! ### Subscriptions -/

def subscribe (name : String) (eventType : Option String) : Step Unit :=
  modify fun world =>
    let receiver := world.hub.bus.subscribe (eventType.getD StateChange.eventType)
    { world with
      subscriptions := world.subscriptions.insert name { receiver, typed := eventType.isNone } }

def unsubscribe (name : String) : Step Bool :=
  modifyGet fun world =>
    (world.subscriptions.contains name,
      { world with subscriptions := world.subscriptions.erase name })

inductive Receipt where
  | event (event : Event Json)
  | change (event : Event StateChange)
  | lagged (count : Nat)
  | closed

def Subscription.next (bus : Bus) (subscription : Subscription) : Option Receipt × Subscription :=
  if subscription.typed then
    let (reception, receiver) := bus.receiveAs StateChange.ofJson subscription.receiver
    (receipt .change reception, { subscription with receiver })
  else
    let (reception, receiver) := bus.receive subscription.receiver
    (receipt .event reception, { subscription with receiver })
where
  receipt {α : Type} (make : Event α → Receipt) : Reception α → Option Receipt
    | .event event => some (make event)
    | .lagged count => some (.lagged count)
    | .idle => if subscription.closed.isSome then some .closed else none

def Subscription.read (bus : Bus) : Nat → Subscription → List Receipt × Subscription
  | 0, subscription => ([], subscription)
  | left + 1, subscription =>
    match subscription.next bus with
    | (none, subscription) => ([], subscription)
    | (some .closed, subscription) => ([.closed], subscription)
    | (some receipt, subscription) =>
      let (receipts, subscription) := subscription.read bus left
      (receipt :: receipts, subscription)

def receive (name : String) (most : Nat) : Step (List Receipt) := do
  let subscription ← named World.subscriptions name
  let bus := subscription.closed.getD (← get).hub.bus
  let (receipts, subscription) := subscription.read bus most
  modify fun world =>
    { world with subscriptions := world.subscriptions.insert name subscription }
  return receipts

def restart : Step Unit :=
  modify fun world =>
    let close (s : Subscription) : Subscription := { s with closed := s.closed.or world.hub.bus }
    { now := world.now
      hub :=
        { surroundings := world.hub.surroundings
          readings := world.hub.readings
          drawn := world.hub.drawn }
      records := world.records
      observed := world.observed
      subscriptions := world.subscriptions.entries.foldl
        (fun table (name, s) => table.insert name (close s)) ∅ }

end HomeHub.Scenario
