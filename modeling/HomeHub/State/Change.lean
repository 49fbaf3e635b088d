import HomeHub.State.Basic

/-!
The change that is announced with every write of a state.
-/

namespace HomeHub

structure StateChange where
  entityId : EntityId
  old : Option State
  new : Option State

namespace StateChange

def eventType : String := "state_changed"

def toJson (change : StateChange) : Json :=
  .obj
    [("entity_id", .str change.entityId.text),
     ("new_state", (change.new.map State.toJson).getD .null),
     ("old_state", (change.old.map State.toJson).getD .null)]

def layout : Decoding.Layout Json StateChange :=
  StateChange.mk <$> .required "entity_id" Json.Decode.entityId
    <*> .optional "old_state" (Json.Decode.option State.ofJson)
    <*> .optional "new_state" (Json.Decode.option State.ofJson)

def ofJson : Json.Decoder StateChange :=
  Json.Decode.record "StateChangedData" layout

end StateChange

end HomeHub
