import HomeHub.Gateway.Lamp

/-!
Observations: an answer brings a report or a failure, and each is followed by the next observation,
after a delay where it failed, until there are too many failures in a row.
-/

namespace HomeHub.Gateway

inductive Reaction where
  | updated (lamp : Lamp)
  | retry (failures : Nat) (delay : Duration)
  | gaveUp (lamp : Lamp)

def Lamp.react (lamp : Lamp) (failures : Nat) (answer : Except Error Response) : Reaction :=
  match answer >>= lamp.applyUpdate with
  | .ok lamp => .updated lamp
  | .error _ =>
    let failures := failures + 1
    if lamp.retry.maxAttempts.toNat ≤ failures then .gaveUp lamp.giveUp
    else .retry failures (lamp.retry.backoff failures)

inductive Sequel where
  | again (failures : Nat) (delay : Option Duration)
  | ended

def Lamp.follow (lamp : Lamp) (entityId : EntityId) (failures : Nat)
    (answer : Except Error Response) (hub : Hub) : Sequel × Lamp × Hub :=
  match lamp.react failures answer with
  | .updated lamp => (.again 0 none, lamp, hub.showLight entityId lamp.view)
  | .retry failures delay => (.again failures (some delay), lamp, hub)
  | .gaveUp lamp => (.ended, lamp, hub.showLight entityId lamp.view)

end HomeHub.Gateway
