import HomeHub.Bridge.Basic
import HomeHub.Proofs.EntityId.RoundTrip
import HomeHub.Proofs.Hub.Evolution

/-!
Services that do what switches call them for: they write to one entity the value they stand for, and
do so once.
-/

namespace HomeHub.Bridge

variable {σ η : Type}

def valueFor (on : Bool) : String :=
  if on then State.on else State.off

structure Services (σ η : Type) where
  registry : Registry η
  run : η → ServiceCall → StateM (Hub × σ) (Except ServiceError Unit)

namespace Services

def perform (services : Services σ η) (request : Request) :
    StateM (Hub × σ) (Except ServiceError Unit) := fun (hub, env) =>
  let (context, hub) := hub.newContext
  services.registry.call services.run request.domain request.service request.data context (hub, env)

/--
A handler moves an entity to a value: called for it alone it ends well, and writes the value to the
entity exactly once, whatever else it writes.
-/
def Moves (services : Services σ η) (handler : η) (entityId : EntityId) (on : Bool) : Prop :=
  ∀ call : ServiceCall, call.entityIds = [entityId.text] → ∀ hub env, ∃ writes later env',
    services.run handler call (hub, env) = (.ok (), (later, env')) ∧ hub.Evolves writes later
      ∧ (writes.filter (·.entityId = entityId)).map (·.value) = [valueFor on]

/-- The services that switches call are registered, and move the entities they are called for. -/
def AreDutiful (services : Services σ η) : Prop :=
  ∀ entityId : EntityId, typeFor? entityId.domain = some switchService → ∀ on, ∃ handler,
    services.registry.find? entityId.domain (serviceFor on) = some handler
      ∧ services.Moves handler entityId on

def Serves (services : Services σ η) (entityId : EntityId) (on : Bool) (hub : Hub) (env : σ) :
    Prop :=
  ∃ writes later env', services.perform (.move entityId on) (hub, env) = (.ok (), (later, env'))
    ∧ hub.Evolves writes later ∧ Write.values entityId writes = [on]

theorem AreDutiful.serves {services : Services σ η} (h : services.AreDutiful)
    {entityId : EntityId} (hsupported : typeFor? entityId.domain = some switchService) (on : Bool)
    (hub : Hub) (env : σ)
    : services.Serves entityId on hub env := by
  obtain ⟨handler, hhandler, hmoves⟩ := h entityId hsupported on
  obtain ⟨writes, later, env', hrun, hevolves, hwritten⟩ := hmoves
    ⟨entityId.domain, serviceFor on, .obj [("entity_id", .str entityId.text)], hub.newContext.1⟩
    rfl hub.newContext.2 env
  refine ⟨writes, later, env', ?_, ?_, ?_⟩
  . unfold perform Registry.call
    dsimp only [Request.move]
    rw [hhandler]
    exact hrun
  . exact hub.evolves_newContext.trans hevolves
  . have hvalues : Write.values entityId writes
        = ((writes.filter (·.entityId = entityId)).map (·.value)).map (· == State.on) := by
      unfold Write.values
      rw [List.map_map]
      rfl
    rw [hvalues]
    rw [hwritten]
    cases on <;> rfl

def obedient : Services Unit Bool where
  registry :=
    ["switch", "remote", "input_boolean", "script"].foldl (fun registry domain =>
      (registry.register domain (serviceFor true) true).register domain (serviceFor false) false) {}
  run on call := fun (hub, env) =>
    match call.entityIds with
    | [text] =>
      match EntityId.parse text with
      | .ok entityId => (.ok (), ((hub.set entityId (valueFor on) [] call.context).2, env))
      | .error e => (.error (.invalidData e.message), (hub, env))
    | _ => (.ok (), (hub, env))

theorem areDutiful_obedient : obedient.AreDutiful := by
  intro entityId hsupported on
  refine ⟨on, ?_, ?_⟩
  . have hdomain : entityId.domain ∈ ["switch", "remote", "input_boolean", "script"] := by
      unfold typeFor? at hsupported
      split at hsupported
      . assumption
      . contradiction
    -- Four domains and two values: each handler is looked up.
    generalize entityId.domain = domain at hdomain
    revert on domain
    decide
  . intro call htargets hub env
    refine ⟨[⟨entityId, valueFor on, [], call.context⟩], _, env, ?_, hub.evolves_write _, ?_⟩
    . unfold obedient
      dsimp only
      rw [htargets]
      dsimp only
      rw [EntityId.parse_text]
      rfl
    . simp

end Services

theorem move_inj {entityId entityId' : EntityId} {on on' : Bool}
    (h : Request.move entityId on = Request.move entityId' on')
    : entityId = entityId' ∧ on = on' := by
  unfold Request.move at h
  simp only [Request.mk.injEq, Json.obj.injEq, List.cons.injEq, Prod.mk.injEq, Json.str.injEq,
    true_and, and_true, EntityId.text_inj] at h
  obtain ⟨_, hservice, hentity⟩ := h
  refine ⟨hentity, ?_⟩
  cases on <;> cases on' <;> first | rfl | exact absurd hservice (by decide)

end HomeHub.Bridge
