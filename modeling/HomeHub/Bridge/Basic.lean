import HomeHub.Bridge.Config
import HomeHub.Bridge.Switch
import HomeHub.Hub

/-!
The bridge: accessories for the entities of a hub, kept in step with their states, and the writes of
clients to them.
-/

namespace HomeHub

namespace Bridge

/-! ### Accessories for entities -/

def typeFor? (domain : String) : Option String :=
  if domain ∈ ["switch", "remote", "input_boolean", "script"] then some switchService else none

abbrev Factory := EntityId → String → Nat → Except Error Switch

abbrev Types := Table String Factory

def builtinTypes : Types :=
  (∅ : Types).insert switchService Switch.new

def displayName (state : State) (config : Config) : String :=
  (config.name? state.entityId).getD <|
    (state.attribute? Json.Decode.string State.friendlyName).getD <|
      String.ofList (state.entityId.objectId.toList.map fun c => if c = '_' then ' ' else c)

def accessoryFor (types : Types) (config : Config) (state : State) (aid : Nat) :
    Except Error (Option Switch) :=
  match typeFor? state.entityId.domain with
  | none => .ok none
  | some type =>
    match types.find? type with
    | none => .error (.unknownType type)
    | some factory => (factory state.entityId (displayName state config) aid).map some

def number (types : Types) (config : Config) :
    List State → Nat → Except Error (List (Nat × Switch))
  | [], _ => .ok []
  | state :: rest, aid => do
    match ← accessoryFor types config state aid with
    | none => number types config rest aid
    | some switch => return (aid, switch) :: (← number types config rest (aid + 1))

def bridgeAid : Nat := 1

structure Follower where
  switch : Switch
  receiver : Option Receiver := none

end Bridge

structure Bridge where
  config : Bridge.Config
  followers : Table Nat Bridge.Follower := ∅

namespace Bridge

def build (types : Types) (config : Config) (states : List State) : Except Error Bridge := do
  let exposed := states.filter fun state => config.filter.exposes state.entityId
  let sorted := exposed.mergeSort fun a b => (compare a.entityId b.entityId).isLE
  let numbered ← number types config sorted (bridgeAid + 1)
  let followers := numbered.foldl (fun table (aid, switch) => table.insert aid { switch }) ∅
  return { config, followers }

def switch? (bridge : Bridge) (aid : Nat) : Option Switch :=
  (bridge.followers.find? aid).map (·.switch)

def switches (bridge : Bridge) : List Switch :=
  bridge.followers.values.map (·.switch)

def mapFollowers (bridge : Bridge) (f : Follower → Follower) : Bridge :=
  { bridge with
    followers :=
      { entries := bridge.followers.entries.map fun (aid, follower) => (aid, f follower)
        distinct := by
          have h := bridge.followers.distinct
          simpa [Function.comp_def] using h } }

/-! ### Following the hub -/

def isRunning (bridge : Bridge) : Bool :=
  bridge.followers.values.any (·.receiver.isSome)

def Follower.follow (hub : Hub) (follower : Follower) : Follower where
  receiver := some (hub.bus.subscribe StateChange.eventType)
  switch := follower.switch.reflect (hub.state? follower.switch.entityId.text)

def start (bridge : Bridge) (hub : Hub) : Bridge :=
  if bridge.isRunning then bridge else bridge.mapFollowers (Follower.follow hub)

def stop (bridge : Bridge) : Bridge :=
  bridge.mapFollowers fun follower => { follower with receiver := none }

def Follower.receive (bus : Bus) (follower : Follower) : Follower :=
  match follower.receiver with
  | none => follower
  | some receiver =>
    match bus.receiveAs StateChange.ofJson receiver with
    | (.event event, receiver) =>
      if event.data.entityId = follower.switch.entityId then
        { switch := follower.switch.reflect event.data.new, receiver := some receiver }
      else { follower with receiver := some receiver }
    -- What is lost is lost: the present state is not looked up.
    | (_, receiver) => { follower with receiver := some receiver }

def Follower.unread (bus : Bus) (follower : Follower) : Nat :=
  match follower.receiver with
  | none => 0
  | some receiver => (bus.log receiver.eventType).size - receiver.next

def Follower.drain (bus : Bus) (follower : Follower) : Follower :=
  (List.range (follower.unread bus + 1)).foldl (fun follower _ => follower.receive bus) follower

def receive (bridge : Bridge) (bus : Bus) (aid : Nat) : Bridge :=
  { bridge with followers := bridge.followers.modify aid (Follower.receive bus) }

def drain (bridge : Bridge) (bus : Bus) : Bridge :=
  bridge.mapFollowers (Follower.drain bus)

/-! ### Writes of clients -/

def beginWrite (bridge : Bridge) (aid : Nat) (characteristic : String) (value : Json) :
    Except Error (Bridge × Option Request) :=
  match bridge.followers.find? aid with
  | none => .error (.unknownAccessory aid)
  | some follower =>
    (follower.switch.write characteristic value).map fun (switch, request) =>
      ({ bridge with followers := bridge.followers.insert aid { follower with switch } }, request)

def write {m : Type → Type} [Monad m] (bridge : Bridge)
    (call : Request → m (Except ServiceError Unit)) (aid : Nat) (characteristic : String)
    (value : Json) : m (Except Error Unit × Bridge) := do
  match bridge.beginWrite aid characteristic value with
  | .error e => return (.error e, bridge)
  | .ok (bridge, none) => return (.ok (), bridge)
  | .ok (bridge, some request) => return ((← call request).mapError .service, bridge)

end Bridge

end HomeHub
