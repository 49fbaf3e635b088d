import HomeHub.Context

/-!
Calls of services such as `switch.turn_on`.
-/

namespace HomeHub

structure ServiceCall where
  domain : String
  service : String
  data : Json
  context : Context

namespace ServiceCall

def serviceId (domain service : String) : String :=
  domain ++ "." ++ service

def id (call : ServiceCall) : String :=
  serviceId call.domain call.service

def entityIds (call : ServiceCall) : List String :=
  match call.data.member? "entity_id" with
  | some (.str s) => [s]
  -- Items that are no texts count nothing.
  | some (.arr items) => items.filterMap Json.asString?
  | _ => []

def toJson (call : ServiceCall) : Json :=
  .obj
    [("context", call.context.toJson),
     ("domain", .str call.domain),
     ("service", .str call.service),
     ("service_data", call.data)]

def layout : Decoding.Layout Json ServiceCall :=
  ServiceCall.mk <$> .required "domain" Json.Decode.string
    <*> .required "service" Json.Decode.string
    <*> .required "service_data" Json.Decode.json
    <*> .required "context" Context.ofJson

def ofJson : Json.Decoder ServiceCall :=
  Json.Decode.record "ServiceCall" layout

end ServiceCall

end HomeHub
