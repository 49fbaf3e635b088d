import HomeHub.Gateway.Command

/-!
What the gateway answers, and what can go wrong in talking to it.
-/

namespace HomeHub.Gateway

open Text (Shown)

inductive Response where
  | ack
  | deviceIds (ids : List UInt64)
  | groupIds (ids : List UInt64)
  | device (device : Device)
  | group (group : Group)
  deriving DecidableEq

def Response.shown : Response → Shown
  | .ack => .word "Ack"
  | .deviceIds ids => .call "DeviceIds" [.list (ids.map fun id => .nat id.toNat)]
  | .groupIds ids => .call "GroupIds" [.list (ids.map fun id => .nat id.toNat)]
  | .device d => .call "Device" [d.shown]
  | .group g => .call "Group" [g.shown]

inductive Error where
  | gateway (text : String)
  | notALight (deviceId : UInt64)
  | unexpectedResponse (command : Command) (response : Response)
  | entityId (error : EntityId.Error)
  deriving DecidableEq

def Error.message : Error → String
  | .gateway text => "gateway request failed: " ++ text
  | .notALight id => "device " ++ toString id.toNat ++ " has no light control"
  | .unexpectedResponse command response =>
    "unexpected gateway response to " ++ command.shown.render ++ ": " ++ response.shown.render
  | .entityId error => error.message

namespace Response

def ids (command : Command) : Response → Except Error (List UInt64)
  | .deviceIds list => .ok list
  | .groupIds list => .ok list
  | other => .error (.unexpectedResponse command other)

def toDevice (command : Command) : Response → Except Error Device
  | .device d => .ok d
  | other => .error (.unexpectedResponse command other)

def toGroup (command : Command) : Response → Except Error Group
  | .group g => .ok g
  | other => .error (.unexpectedResponse command other)

end Response

/-- How a gateway, being what it is, answers a command, and what it is afterwards. -/
abbrev Api (γ : Type) := Command → γ → Except Error Response × γ

end HomeHub.Gateway
