import HomeHub.Bus
import HomeHub.State.Change
import HomeHub.Surroundings

/-!
The hub: the states of all entities, and the bus on which every write is announced.
-/

namespace HomeHub

theorem State.keyed_empty (key : String) (state : State)
    (h : (∅ : Table String State).find? key = some state) : state.entityId.text = key := by
  cases h

/--
The states of all entities, by the text of their ids, and the bus, together with how much of the
surroundings has been used.
-/
structure Hub where
  surroundings : Surroundings
  readings : Nat := 0
  drawn : Nat := 0
  bus : Bus := {}
  states : Table String State := ∅
  keyed : ∀ key state, states.find? key = some state → state.entityId.text = key := by
    exact State.keyed_empty

namespace Hub

def readClock (hub : Hub) : Timestamp × Hub :=
  (hub.surroundings.clock hub.readings, { hub with readings := hub.readings + 1 })

def drawId (hub : Hub) : String × Hub :=
  (hub.surroundings.ids hub.drawn, { hub with drawn := hub.drawn + 1 })

def newContext (hub : Hub) : Context × Hub :=
  let (id, hub) := hub.drawId
  ({ id }, hub)

def childContext (hub : Hub) (context : Context) : Context × Hub :=
  let (id, hub) := hub.drawId
  (context.child id, hub)

def state? (hub : Hub) (entityId : String) : Option State :=
  hub.states.find? entityId

def fire (hub : Hub) (eventType : String) (data : Json) (context : Context) : Hub :=
  let (firedAt, hub) := hub.readClock
  { hub with bus := hub.bus.fire { eventType, data, firedAt, context } }

def announce (hub : Hub) (change : StateChange) (context : Context) : Hub :=
  hub.fire StateChange.eventType change.toJson context

def nextState (hub : Hub) (now : Timestamp) (entityId : EntityId) (value : String)
    (attributes : Json.Object) (context : Context) : State :=
  match hub.state? entityId.text with
  | some old => old.update now value attributes context
  | none => State.new now entityId value attributes context

theorem text_nextState (hub : Hub) (now : Timestamp) (entityId : EntityId) (value : String)
    (attributes : Json.Object) (context : Context) :
    (hub.nextState now entityId value attributes context).entityId.text = entityId.text := by
  unfold nextState
  split
  . next old h => exact hub.keyed _ old h
  . rfl

def store (hub : Hub) (key : String) (state : State) (hkey : state.entityId.text = key) : Hub :=
  { hub with
    states := hub.states.insert key state
    keyed := by
      intro other state' h
      rw [Table.find?_insert] at h
      split at h
      . next heq =>
        cases h
        rw [hkey, heq]
      . exact hub.keyed other state' h }

def set (hub : Hub) (entityId : EntityId) (value : String) (attributes : Json.Object)
    (context : Context) : State × Hub :=
  let old := hub.state? entityId.text
  let (now, hub) := hub.readClock
  let state := hub.nextState now entityId value attributes context
  let hub :=
    hub.store entityId.text state (hub.text_nextState now entityId value attributes context)
  (state, hub.announce ⟨entityId, old, some state⟩ context)

end Hub

end HomeHub
