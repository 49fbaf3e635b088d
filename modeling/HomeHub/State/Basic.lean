import HomeHub.Context

/-!
The state of an entity, as the store keeps it.
-/

namespace HomeHub

structure State where
  entityId : EntityId
  value : String
  attributes : Json.Object
  lastChanged : Timestamp
  lastUpdated : Timestamp
  context : Context

namespace State

def on : String := "on"

def off : String := "off"

def unavailable : String := "unavailable"

def friendlyName : String := "friendly_name"

def new (now : Timestamp) (entityId : EntityId) (value : String) (attributes : Json.Object)
    (context : Context) : State :=
  { entityId, value, attributes, lastChanged := now, lastUpdated := now, context }

def update (old : State) (now : Timestamp) (value : String) (attributes : Json.Object)
    (context : Context) : State :=
  { entityId := old.entityId
    value
    attributes
    -- The time of change is kept as long as the value is.
    lastChanged := if old.value = value then old.lastChanged else now
    lastUpdated := now
    context }

def isOn (state : State) : Bool :=
  state.value == on

def attribute? {α : Type} (state : State) (decode : Json.Decoder α) (key : String) : Option α := do
  let v ← state.attributes.find? key
  (decode v).toOption

/-- Times and contexts do not count for equality. -/
instance : BEq State where
  beq a b := a.entityId == b.entityId && a.value == b.value &&
    Json.obj a.attributes == Json.obj b.attributes

def toJson (state : State) : Json :=
  .obj
    [("attributes", .obj state.attributes),
     ("context", state.context.toJson),
     ("entity_id", .str state.entityId.text),
     ("last_changed", .str state.lastChanged.text),
     ("last_updated", .str state.lastUpdated.text),
     ("state", .str state.value)]

def layout : Decoding.Layout Json State :=
  State.mk <$> .required "entity_id" Json.Decode.entityId
    <*> .required "state" Json.Decode.string
    <*> .withDefault "attributes" [] Json.Decode.object
    <*> .required "last_changed" Json.Decode.timestamp
    <*> .required "last_updated" Json.Decode.timestamp
    <*> .required "context" Context.ofJson

def ofJson : Json.Decoder State :=
  Json.Decode.record "State" layout

end State

end HomeHub
