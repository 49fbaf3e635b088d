import HomeHub.Json.Decode

/-!
Contexts: who and what caused a change.
-/

namespace HomeHub

structure Context where
  id : String
  userId : Option String := none
  parentId : Option String := none
  deriving DecidableEq, Repr

namespace Context

def child (context : Context) (id : String) : Context :=
  { id, userId := context.userId, parentId := some context.id }

def toJson (context : Context) : Json :=
  .obj <|
    [("id", .str context.id)] ++
    (context.parentId.map fun id => ("parent_id", Json.str id)).toList ++
    (context.userId.map fun id => ("user_id", Json.str id)).toList

def layout : Decoding.Layout Json Context :=
  Context.mk <$> .required "id" Json.Decode.string
    <*> .optional "user_id" (Json.Decode.option Json.Decode.string)
    <*> .optional "parent_id" (Json.Decode.option Json.Decode.string)

def ofJson : Json.Decoder Context :=
  Json.Decode.record "Context" layout

end Context

end HomeHub
