import HomeHub.Light.View
import HomeHub.Proofs.Hub.Write

/-!
What it does to show a light: the state of its entity becomes what the light shows.
-/

namespace HomeHub.Hub

variable (hub : Hub) (entityId : EntityId) (view : Light.View)

def shown : State :=
  (hub.newContext.2.setLight entityId view hub.newContext.1).1

@[simp]
theorem entityId_shown : (hub.shown entityId view).entityId = entityId := by
  apply entityId_set

@[simp]
theorem value_shown : (hub.shown entityId view).value = view.value := by
  apply value_set

@[simp]
theorem attributes_shown : (hub.shown entityId view).attributes = view.attributes := by
  apply attributes_set

theorem state?_showLight (key : String)
    : (hub.showLight entityId view).state? key
        =
      if entityId.text = key then some (hub.shown entityId view) else hub.state? key := by
  apply state?_set

def changesSince (earlier : Hub) : List StateChange :=
  (hub.bus.unread StateChange.ofJson (earlier.bus.subscribe StateChange.eventType)).map (·.data)

def Follows (earlier : Hub) : Prop :=
  hub.bus.Within (earlier.bus.subscribe StateChange.eventType)

theorem follows_showLight {earlier : Hub} (h : hub.Follows earlier)
    : (hub.showLight entityId view).Follows earlier := by
  exact Bus.within_fire _ h

theorem changesSince_showLight {earlier : Hub} (h : hub.Follows earlier)
    : (hub.showLight entityId view).changesSince earlier
        =
      hub.changesSince earlier
        ++ [⟨entityId, hub.state? entityId.text, some (hub.shown entityId view)⟩] := by
  have hbus : (hub.showLight entityId view).bus
      = hub.bus.fire (hub.newContext.2.announcement entityId view.value view.attributes
          hub.newContext.1) := by
    rfl
  unfold changesSince
  rw [hbus]
  rw [Bus.unread_fire _ _ h rfl]
  rw [readAs_announcement]
  rw [List.map_append]
  rfl

end HomeHub.Hub
