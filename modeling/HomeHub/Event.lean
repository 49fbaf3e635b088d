import HomeHub.Context

/-!
Events, as they travel on the bus.
-/

namespace HomeHub

structure Event (α : Type) where
  eventType : String
  data : α
  firedAt : Timestamp
  context : Context

namespace Event

variable {α β : Type}

def withData (event : Event α) (data : β) : Event β :=
  { eventType := event.eventType, data, firedAt := event.firedAt, context := event.context }

def toJson (encode : α → Json) (event : Event α) : Json :=
  .obj
    [("context", event.context.toJson),
     ("data", encode event.data),
     ("event_type", .str event.eventType),
     ("time_fired", .str event.firedAt.text)]

def layout (decode : Json.Decoder α) : Decoding.Layout Json (Event α) :=
  Event.mk <$> .required "event_type" Json.Decode.string
    <*> .required "data" decode
    <*> .required "time_fired" Json.Decode.timestamp
    <*> .required "context" Context.ofJson

def ofJson (decode : Json.Decoder α) : Json.Decoder (Event α) :=
  Json.Decode.record "Event" (layout decode)

end Event

end HomeHub
