import HomeHub.Light.Component
import HomeHub.Proofs.Hub.Evolution

/-!
A call of a service that switches lights: the lights it targets are commanded one after the other
until a command fails, and a light that is polled is written before the next one is commanded.
-/

namespace HomeHub

namespace Hub

variable (hub : Hub) (entityId : EntityId) {view : Light.View}

theorem evolves_showPolled (h : view.polled = true) (context : Context)
    : hub.Evolves
        [⟨entityId, view.value, view.attributes, (hub.childContext context).1⟩]
        (hub.showPolled entityId view context) := by
  have hdrawn : hub.Evolves [] (hub.childContext context).2 := Evolves.refl.aside rfl rfl
  unfold showPolled
  rw [if_pos h]
  exact hdrawn.write ⟨entityId, view.value, view.attributes, (hub.childContext context).1⟩

theorem showPolled_of_not_polled (h : view.polled = false) (context : Context)
    : hub.showPolled entityId view context = hub := by
  unfold showPolled
  rw [h]
  rfl

end Hub

namespace Light.Component

variable {σ κ π : Type}

/--
Targets are commanded in order and none fails. The state of a light that is polled is written right
after its command, in a child of the context of the call; the state of another light is not.
-/
inductive Served (view : σ → κ → View) (command : κ → σ → Outcome × σ) (context : Context) :
    List (Registered κ) → σ × Hub → σ × Hub → Prop where
  | nil (world : σ × Hub) : Served view command context [] world world
  | polled {target : Registered κ} {rest : List (Registered κ)} {lights lights' : σ}
    {hub hub' : Hub} {last : σ × Hub} {child : Context}
    (hcommand : command target.light lights = (.ok (), lights'))
    (hpolled : (view lights' target.light).polled = true)
    (hparent : child.parentId = some context.id) (huser : child.userId = context.userId)
    (hwritten : hub.Evolves
      [⟨target.entityId, (view lights' target.light).value,
        (view lights' target.light).attributes, child⟩] hub')
    (hrest : Served view command context rest (lights', hub') last) :
    Served view command context (target :: rest) (lights, hub) last
  | pushed {target : Registered κ} {rest : List (Registered κ)} {lights lights' : σ} {hub : Hub}
    {last : σ × Hub} (hcommand : command target.light lights = (.ok (), lights'))
    (hpolled : (view lights' target.light).polled = false)
    (hrest : Served view command context rest (lights', hub) last) :
    Served view command context (target :: rest) (lights, hub) last

inductive Dispatched (view : σ → κ → View) (command : κ → σ → Outcome × σ) (context : Context)
    (targets : List (Registered κ)) (world : σ × Hub) :
    Except ServiceError Unit × σ × Hub → Prop where
  | all {last : σ × Hub} (hserved : Served view command context targets world last) :
    Dispatched view command context targets world (.ok (), last)
  | failed {served rest : List (Registered κ)} {target : Registered κ} {lights lights' : σ}
    {hub : Hub} {failure : Failure} (htargets : targets = served ++ target :: rest)
    (hserved : Served view command context served world (lights, hub))
    (hcommand : command target.light lights = (.error failure, lights')) :
    Dispatched view command context targets world
      (.error (.callFailed failure.message), lights', hub)

/-- A call is refused for its data, and nothing happens; or it is dispatched to its targets. -/
inductive CarriedOut (component : Component κ) (view : σ → κ → View) (decode : Json.Decoder π)
    (command : π → κ → σ → Outcome × σ) (call : ServiceCall) (lights : σ) (hub : Hub) :
    Except ServiceError Unit × σ × Hub → Prop where
  | refused {e : Decoding.Error} (hdata : decode call.data = .error e) :
    CarriedOut component view decode command call lights hub
      (.error (.invalidData (Json.errorMessage e)), lights, hub)
  | dispatched {params : π} {result : Except ServiceError Unit × σ × Hub}
    (hdata : decode call.data = .ok params)
    (hdispatched : Dispatched view (command params) call.context (component.targets call)
      (lights, hub) result) :
    CarriedOut component view decode command call lights hub result

section

variable {view : σ → κ → View} {command : κ → σ → Outcome × σ} {context : Context}

theorem Served.evolves {targets : List (Registered κ)} {world last : σ × Hub}
    (h : Served view command context targets world last)
    : ∃ writes, world.2.Evolves writes last.2 := by
  induction h with
  | nil => exact ⟨[], .refl⟩
  | polled _ _ _ _ hwritten _ ih =>
    obtain ⟨more, hmore⟩ := ih
    exact ⟨_, hwritten.trans hmore⟩
  | pushed _ _ _ ih => exact ih

theorem served_showPolled {target : Registered κ} {rest : List (Registered κ)} {lights lights' : σ}
    {hub : Hub} {last : σ × Hub} (hcommand : command target.light lights = (.ok (), lights'))
    (hrest : Served view command context rest
      (lights', hub.showPolled target.entityId (view lights' target.light) context) last)
    : Served view command context (target :: rest) (lights, hub) last := by
  cases hpolled : (view lights' target.light).polled with
  | true =>
    have hwritten := hub.evolves_showPolled target.entityId hpolled context
    refine .polled hcommand hpolled ?_ ?_ hwritten hrest
    . rfl
    . rfl
  | false =>
    rw [hub.showPolled_of_not_polled target.entityId hpolled context] at hrest
    exact .pushed hcommand hpolled hrest

theorem dispatched_cons {target : Registered κ} {rest : List (Registered κ)} {lights lights' : σ}
    {hub : Hub} {result : Except ServiceError Unit × σ × Hub}
    (hcommand : command target.light lights = (.ok (), lights'))
    (hrest : Dispatched view command context rest
      (lights', hub.showPolled target.entityId (view lights' target.light) context) result)
    : Dispatched view command context (target :: rest) (lights, hub) result := by
  cases hrest with
  | all hserved => exact .all (served_showPolled hcommand hserved)
  | failed htargets hserved hfailed =>
    rw [htargets]
    exact .failed rfl (served_showPolled hcommand hserved) hfailed

theorem dispatched_dispatch (targets : List (Registered κ)) (lights : σ) (hub : Hub)
    : Dispatched view command context targets (lights, hub)
        (dispatch view command context targets lights hub) := by
  induction targets generalizing lights hub with
  | nil => exact .all (.nil _)
  | cons target rest ih =>
    unfold dispatch
    split
    . next failure lights' hcommand => exact .failed rfl (.nil _) hcommand
    . next lights' hcommand => exact dispatched_cons hcommand (ih _ _)

end

theorem carriedOut_serve (component : Component κ) (view : σ → κ → View) (decode : Json.Decoder π)
    (command : π → κ → σ → Outcome × σ) (call : ServiceCall) (lights : σ) (hub : Hub)
    : CarriedOut component view decode command call lights hub
        (component.serve view decode command call lights hub) := by
  unfold serve
  split
  . next e hdata => exact .refused hdata
  . next params hdata => exact .dispatched hdata (dispatched_dispatch _ _ _)

theorem CarriedOut.evolves {component : Component κ} {view : σ → κ → View} {decode : Json.Decoder π}
    {command : π → κ → σ → Outcome × σ} {call : ServiceCall} {lights : σ} {hub : Hub}
    {result : Except ServiceError Unit × σ × Hub}
    (h : CarriedOut component view decode command call lights hub result)
    : ∃ writes, hub.Evolves writes result.2.2 := by
  cases h with
  | refused => exact ⟨[], .refl⟩
  | dispatched _ hdispatched =>
    cases hdispatched with
    | all hserved => exact hserved.evolves
    | failed _ hserved _ => exact hserved.evolves

theorem targets_eq (component : Component κ) (call : ServiceCall)
    : component.targets call
        =
      match call.data.member? "entity_id" with
      | some (.str id) => (component.lights.find? id).toList
      | some (.arr items) => items.filterMap fun
        | .str id => component.lights.find? id
        | _ => none
      | _ => [] := by
  unfold targets ServiceCall.entityIds
  generalize call.data.member? "entity_id" = named
  cases named with
  | none => rfl
  | some value =>
    cases value with
    | str id =>
      dsimp only
      rw [List.filterMap_cons]
      cases component.lights.find? id <;> rfl
    | arr items =>
      dsimp only
      rw [List.filterMap_filterMap]
      congr 1
      funext item
      cases item <;> rfl
    | _ => rfl

theorem carriedOut_turnOn_turnOff (component : Component κ) (control : Control σ κ)
    (call : ServiceCall) (lights : σ) (hub : Hub)
    : CarriedOut component control.view TurnOnParams.ofJson
          (fun params light => control.turnOn light params) call lights hub
          (component.turnOn control call lights hub)
        ∧ CarriedOut component control.view TurnOffParams.ofJson
          (fun params light => control.turnOff light params) call lights hub
          (component.turnOff control call lights hub)
        ∧ component.targets call =
          match call.data.member? "entity_id" with
          | some (.str id) => (component.lights.find? id).toList
          | some (.arr items) => items.filterMap fun
            | .str id => component.lights.find? id
            | _ => none
          | _ => [] := by
  refine ⟨?_, ?_, targets_eq component call⟩
  . apply carriedOut_serve
  . apply carriedOut_serve

def noting : Control (List Nat) Nat where
  view _ number := { name := "Lamp", features := 0, on := true, polled := number % 2 == 1 }
  turnOn number _ noted := (if number = 3 then .error ⟨"stuck"⟩ else .ok (), noted ++ [number])
  turnOff _ _ noted := (.ok (), noted)

def threeLights : Component Nat where
  lights := [1, 2, 3].foldl (fun lights number => lights.insert (toString number) ⟨.desk, number⟩) ∅

def repeatedTargets : ServiceCall where
  domain := domain
  service := turnOnService
  data := .obj [("entity_id", .arr (.null :: ["2", "4", "1", "2", "3", "1"].map .str))]
  context := { id := "sweep" }

example
    : let after := threeLights.turnOn noting repeatedTargets [] .simulated
      after.1 = .error (.callFailed "light command failed: stuck")
        ∧ after.2.1 = [2, 1, 2, 3]
        ∧ (after.2.2.state? "light.desk").map (·.context.parentId) = some (some "sweep") := by
  exact ⟨rfl, rfl, rfl⟩

end Light.Component

end HomeHub
