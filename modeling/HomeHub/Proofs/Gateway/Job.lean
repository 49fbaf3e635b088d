import HomeHub.Gateway.Fleet

/-!
Service calls taken apart: what is left of a call after each command to the gateway. A call that
nothing comes between does the same as the service.
-/

namespace HomeHub.Gateway

open Light (Component Registered)

variable {γ κ : Type}

namespace Fleet

@[simp]
theorem lamps_execute (api : Api γ) (command : Command) (fleet : Fleet γ κ)
    : (fleet.execute api command).2.lamps = fleet.lamps := by
  rfl

theorem lamps_send {api : Api γ} {lampIn : Fleet γ κ → Lamp} (actions : List Action)
    (fleet : Fleet γ κ)
    : (Lamp.send (execute api) lampIn actions fleet).2.lamps = fleet.lamps := by
  induction actions generalizing fleet with
  | nil => rfl
  | cons action actions ih =>
    have hlamps := lamps_execute api ((lampIn fleet).address action) fleet
    unfold Lamp.send
    cases hanswer : execute api ((lampIn fleet).address action) fleet with
    | mk answer after =>
      rw [hanswer] at hlamps
      cases answer with
      | error e => exact hlamps
      | ok response => exact (ih after).trans hlamps

end Fleet

variable [DecidableEq κ]

structure Job (κ : Type) where
  plan : Lamp → List Action
  context : Context
  targets : List (Registered κ)
  actions : List Action

inductive Job.Next (κ : Type) where
  | again (job : Job κ)
  | over (result : Except ServiceError Unit)

def Job.Next.jobs : Job.Next κ → List (Job κ)
  | .again job => [job]
  | .over _ => []

namespace Job

def start (plan : Lamp → List Action) (context : Context) (targets : List (Registered κ))
    (fleet : Fleet γ κ) : Job κ where
  plan := plan
  context := context
  targets := targets
  actions :=
    match targets with
    | [] => []
    | target :: _ => ((fleet.lamps.find? target.light).map plan).getD []

def proceed (api : Api γ) (job : Job κ) (fleet : Fleet γ κ) (hub : Hub) :
    Next κ × Fleet γ κ × Hub :=
  match job.targets, job.actions with
  | [], _ => (.over (.ok ()), fleet, hub)
  | target :: _, action :: actions =>
    match fleet.carryOut api (fun _ => [action]) target.light with
    | (.error failure, fleet) => (.over (.error (.callFailed failure.message)), fleet, hub)
    | (.ok (), fleet) => (.again { job with actions }, fleet, hub)
  | target :: rest, [] =>
    let hub := hub.showPolled target.entityId (fleet.view target.light) job.context
    (.again (start job.plan job.context rest fleet), fleet, hub)

def finish (api : Api γ) (job : Job κ) (fleet : Fleet γ κ) (hub : Hub) :
    Except ServiceError Unit × Fleet γ κ × Hub :=
  match job.targets with
  | [] => (.ok (), fleet, hub)
  | target :: rest =>
    match fleet.carryOut api (fun _ => job.actions) target.light with
    | (.error failure, fleet) => (.error (.callFailed failure.message), fleet, hub)
    | (.ok (), fleet) =>
      let hub := hub.showPolled target.entityId (fleet.view target.light) job.context
      Component.dispatch Fleet.view (Fleet.carryOut api job.plan) job.context rest fleet hub

end Job

namespace Fleet

theorem carryOut_nil (api : Api γ) (handle : κ) (fleet : Fleet γ κ)
    : fleet.carryOut api (fun _ => []) handle = (.ok (), fleet) := by
  unfold carryOut
  split
  . rfl
  . rfl

theorem carryOut_cons (api : Api γ) (action : Action) (actions : List Action) (handle : κ)
    (fleet : Fleet γ κ)
    : fleet.carryOut api (fun _ => action :: actions) handle
        =
      match fleet.carryOut api (fun _ => [action]) handle with
      | (.error failure, fleet) => (.error failure, fleet)
      | (.ok (), fleet) => fleet.carryOut api (fun _ => actions) handle := by
  unfold carryOut
  cases hlamp : fleet.lamps.find? handle with
  | none => simp [hlamp]
  | some lamp =>
    dsimp only [Lamp.send]
    have hlamps := lamps_execute api (((fleet.lamps.find? handle).getD lamp).address action) fleet
    cases hanswer : execute api (((fleet.lamps.find? handle).getD lamp).address action) fleet with
    | mk answer after =>
      rw [hanswer] at hlamps
      cases answer with
      | error e => rfl
      | ok response =>
        dsimp only [Except.mapError]
        rw [hlamps]
        rw [hlamp]

theorem lamps_carryOut (api : Api γ) (plan : Lamp → List Action) (handle : κ) (fleet : Fleet γ κ)
    : (fleet.carryOut api plan handle).2.lamps = fleet.lamps := by
  unfold carryOut
  split
  . rfl
  . apply lamps_send

end Fleet

namespace Job

theorem finish_start (api : Api γ) (plan : Lamp → List Action) (context : Context)
    (targets : List (Registered κ)) (fleet : Fleet γ κ) (hub : Hub)
    : (start plan context targets fleet).finish api fleet hub
        =
      Component.dispatch Fleet.view (Fleet.carryOut api plan) context targets fleet hub := by
  cases targets with
  | nil => rfl
  | cons target rest =>
    -- The plan is made for the lamp as it is when its turn comes.
    have hcommand : fleet.carryOut api
          (fun _ => ((fleet.lamps.find? target.light).map plan).getD []) target.light
        = fleet.carryOut api plan target.light := by
      unfold Fleet.carryOut
      cases hlamp : fleet.lamps.find? target.light with
      | none => rfl
      | some lamp => rfl
    unfold finish start
    dsimp only
    rw [hcommand]
    rw [Component.dispatch]
    cases hresult : fleet.carryOut api plan target.light with
    | mk outcome after =>
      cases outcome with
      | error failure => rfl
      | ok => rfl

theorem finish_eq_proceed (api : Api γ) (job : Job κ) (fleet : Fleet γ κ) (hub : Hub)
    : job.finish api fleet hub
        =
      match job.proceed api fleet hub with
      | (.over result, fleet, hub) => (result, fleet, hub)
      | (.again job, fleet, hub) => job.finish api fleet hub := by
  obtain ⟨plan, context, targets, actions⟩ := job
  cases targets with
  | nil => rfl
  | cons target rest =>
    cases actions with
    | nil =>
      unfold proceed
      dsimp only
      rw [finish_start]
      unfold finish
      dsimp only
      rw [Fleet.carryOut_nil]
    | cons action actions =>
      unfold proceed finish
      dsimp only
      rw [Fleet.carryOut_cons]
      cases hresult : fleet.carryOut api (fun _ => [action]) target.light with
      | mk outcome after =>
        cases outcome with
        | error failure => rfl
        | ok => rfl

theorem turnOn_eq_finish (component : Component κ) (api : Api γ) (call : ServiceCall)
    {params : Light.TurnOnParams} (hparams : Light.TurnOnParams.ofJson call.data = .ok params)
    (fleet : Fleet γ κ) (hub : Hub)
    : component.turnOn (Fleet.control api) call fleet hub
        =
      (start (·.turnOnPlan params) call.context (component.targets call) fleet).finish
        api fleet hub := by
  unfold Component.turnOn Component.serve
  rw [hparams]
  rw [finish_start]
  rfl

theorem turnOff_eq_finish (component : Component κ) (api : Api γ) (call : ServiceCall)
    {params : Light.TurnOffParams} (hparams : Light.TurnOffParams.ofJson call.data = .ok params)
    (fleet : Fleet γ κ) (hub : Hub)
    : component.turnOff (Fleet.control api) call fleet hub
        =
      (start Lamp.turnOffPlan call.context (component.targets call) fleet).finish
        api fleet hub := by
  unfold Component.turnOff Component.serve
  rw [hparams]
  rw [finish_start]
  rfl

end Job

end HomeHub.Gateway
