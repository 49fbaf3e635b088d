import HomeHub.Hub
import HomeHub.Proofs.Bus.Unread
import HomeHub.Proofs.State.RoundTrip
import HomeHub.Proofs.Table

/-!
What a write does: it changes the state of one entity, and puts one change behind all that is
unread.
-/

namespace HomeHub

structure Write where
  entityId : EntityId
  value : String
  attributes : Json.Object
  context : Context

def EntityId.desk : EntityId :=
  .ofLiteral "light" "desk"

namespace Hub

def write (hub : Hub) (w : Write) : State × Hub :=
  hub.set w.entityId w.value w.attributes w.context

def simulated : Hub where
  surroundings := .simulated

variable (hub : Hub) (entityId : EntityId) (value : String) (attributes : Json.Object)
  (context : Context)

theorem entityId_nextState (now : Timestamp)
    : (hub.nextState now entityId value attributes context).entityId = entityId := by
  apply EntityId.text_injective
  apply text_nextState

@[simp]
theorem entityId_set : (hub.set entityId value attributes context).1.entityId = entityId := by
  apply entityId_nextState

@[simp]
theorem value_set : (hub.set entityId value attributes context).1.value = value := by
  simp only [set, nextState]
  split <;> rfl

@[simp]
theorem attributes_set
    : (hub.set entityId value attributes context).1.attributes = attributes := by
  simp only [set, nextState]
  split <;> rfl

theorem state?_set (key : String)
    : (hub.set entityId value attributes context).2.state? key
        =
      if entityId.text = key then some (hub.set entityId value attributes context).1
      else hub.state? key := by
  apply Table.find?_insert

def announcement : Event Json where
  eventType := StateChange.eventType
  data := StateChange.toJson
    ⟨entityId, hub.state? entityId.text, some (hub.set entityId value attributes context).1⟩
  firedAt := hub.surroundings.clock (hub.readings + 1)
  context := context

theorem bus_set
    : (hub.set entityId value attributes context).2.bus
        =
      hub.bus.fire (hub.announcement entityId value attributes context) := by
  rfl

theorem readAs_announcement
    : Bus.readAs StateChange.ofJson (hub.announcement entityId value attributes context)
        =
      some ⟨StateChange.eventType,
        ⟨entityId, hub.state? entityId.text, some (hub.set entityId value attributes context).1⟩,
        hub.surroundings.clock (hub.readings + 1), context⟩ := by
  apply Bus.readAs_of_ok
  apply StateChange.ofJson_toJson

end Hub

end HomeHub
