import HomeHub.Event
import HomeHub.Table

/-!
The event bus. Each type of event has a log of its own; a receiver is a position in one log, and
sees at most the last events of it.
-/

namespace HomeHub

structure Bus where
  logs : Table String (Array (Event Json)) := ∅

structure Receiver where
  eventType : String
  next : Nat

inductive Reception (α : Type) where
  | event (event : Event α)
  | lagged (count : Nat)
  | idle

namespace Bus

/-- How many events of a type are kept for receivers that have fallen behind. -/
def capacity : Nat := 1024

def log (bus : Bus) (eventType : String) : Array (Event Json) :=
  (bus.logs.find? eventType).getD #[]

def fire (bus : Bus) (event : Event Json) : Bus :=
  { logs := bus.logs.insert event.eventType ((bus.log event.eventType).push event) }

theorem log_fire (bus : Bus) (event : Event Json) (eventType : String) :
    (bus.fire event).log eventType =
      if event.eventType = eventType then (bus.log eventType).push event
      else bus.log eventType := by
  simp only [log, fire, Table.find?_insert]
  split
  · next h => subst h; rfl
  · rfl

def subscribe (bus : Bus) (eventType : String) : Receiver :=
  ⟨eventType, (bus.log eventType).size⟩

def lost (bus : Bus) (receiver : Receiver) : Nat :=
  (bus.log receiver.eventType).size - capacity - receiver.next

def receive (bus : Bus) (receiver : Receiver) : Reception Json × Receiver :=
  let lost := bus.lost receiver
  if 0 < lost then (.lagged lost, { receiver with next := receiver.next + lost })
  else
    match (bus.log receiver.eventType)[receiver.next]? with
    | some event => (.event event, { receiver with next := receiver.next + 1 })
    | none => (.idle, receiver)

def receiveAs {α : Type} (decode : Json.Decoder α) (bus : Bus) (receiver : Receiver) :
    Reception α × Receiver :=
  let lost := bus.lost receiver
  if 0 < lost then (.lagged lost, { receiver with next := receiver.next + lost })
  else
    let log := bus.log receiver.eventType
    let (reception, next) := scan log (log.size - receiver.next) receiver.next
    (reception, { receiver with next })
where
  scan (log : Array (Event Json)) : Nat → Nat → Reception α × Nat
    | 0, next => (.idle, next)
    | left + 1, next =>
      match log[next]? with
      | none => (.idle, next)
      | some event =>
        match decode event.data with
        | .ok data => (.event (event.withData data), next + 1)
        -- What cannot be read is passed over without a trace.
        | .error _ => scan log left (next + 1)

end Bus

end HomeHub
