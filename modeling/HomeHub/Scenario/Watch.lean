import HomeHub.Scenario.World

/-!
Observations of lamps in a scenario, and the passing of time. Time stands still until nothing can
happen without it.
-/

namespace HomeHub.Scenario

open Gateway (Error Response)

def Watch.react (watch : Watch) (answer : Except Error Response) : StateM World (Option Watch) := do
  let world ← get
  match world.lights.lamp? watch.lamp with
  | none => return none
  | some lamp =>
    let (sequel, lamp, hub) := lamp.follow watch.entityId watch.failures answer world.hub
    set { world with hub, lights := world.lights.setLamp watch.lamp lamp }
    match sequel with
    | .again failures none => return some { watch with failures, phase := .due }
    | .again failures (some delay) =>
      return some { watch with failures, phase := .asleep (world.now + delay.toMillis) }
    | .ended => return none

def Watch.observe (watch : Watch) (target : String) : StateM World (Option Watch) := do
  modify fun world => { world with observed := world.observed ++ [(target, world.now)] }
  if (← get).lights.gateway.offline then watch.react (.error SimulatedGateway.offlineError)
  else return some { watch with phase := .waiting target }

def Watch.canMove (world : World) (watch : Watch) : Bool :=
  match watch.phase with
  | .due => true
  | .waiting target => (world.lights.gateway.takePushed target).1.isSome
  | .asleep wakes => wakes ≤ world.now

def Watch.move (watch : Watch) : StateM World (Option Watch) := do
  let world ← get
  match watch.phase with
  | .asleep _ => return some { watch with phase := .due }
  | .due =>
    match world.lights.lamp? watch.lamp with
    | none => return none
    | some lamp => watch.observe (label lamp.observeCommand)
  | .waiting target =>
    match world.lights.gateway.takePushed target with
    | (none, _) => return some watch
    | (some answer, gateway) =>
      set { world with lights := world.lights.setGateway gateway }
      watch.react answer

def Watch.settle : Nat → Watch → StateM World (Option Watch)
  | 0, watch => return some watch
  | fuel + 1, watch => do
    if watch.canMove (← get) then
      match ← watch.move with
      | some watch => watch.settle fuel
      | none => return none
    else return some watch

def Watch.attempts (world : World) (watch : Watch) : Nat :=
  let most := ((world.lights.lamp? watch.lamp).map (·.retry.maxAttempts.toNat)).getD 0
  (world.lights.gateway.pushedCount + 1) * (most + 1)

def movesPerAttempt : Nat := 3

def Watch.wakes? (watch : Watch) : Option Nat :=
  match watch.phase with
  | .asleep wakes => some wakes
  | _ => none

def settleWatches : StateM World Unit := do
  let settled ← (← get).watches.filterMapM fun watch => do
    let after ← watch.settle (movesPerAttempt * (watch.attempts (← get) + 1))
    return after.map fun after => (after, after.wakes? != watch.wakes?)
  -- Those that have fallen asleep or have woken up come behind all others from now on.
  let (turned, others) := settled.partition (·.2)
  modify fun world => { world with watches := (others ++ turned).map (·.1) }

def settleBridge : StateM World Unit :=
  modify fun world => { world with bridge := world.bridge.map (·.drain world.hub.bus) }

def advanceTo (last : Nat) : Nat → StateM World Unit
  | 0 => modify fun world => { world with now := last }
  | fuel + 1 => do
    let wakes := (← get).watches.filterMap Watch.wakes?
    match (wakes.filter (· ≤ last)).min? with
    | none => modify fun world => { world with now := last }
    | some next => do
      modify fun world => { world with now := next }
      settleWatches
      settleBridge
      advanceTo last fuel

def advance (ms : Nat) : StateM World Unit := do
  let world ← get
  advanceTo (world.now + ms) ((world.watches.map (Watch.attempts world)).foldl (· + ·) 0)

def push (target : String) (results : List (Except Error Response)) : Step Unit :=
  changeLights fun lights => lights.setGateway (lights.gateway.push target results)

end HomeHub.Scenario
