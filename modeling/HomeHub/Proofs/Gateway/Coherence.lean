import HomeHub.Proofs.Gateway.Job
import HomeHub.Proofs.Gateway.Report
import HomeHub.Proofs.Gateway.Shown

/-!
Lamps at work: observations, service calls and the end of all observations in any order. Whatever
has happened, the state of every lamp that was added is what the lamp shows.
-/

namespace HomeHub.Gateway

open Light (Component Registered TurnOffParams TurnOnParams)

variable {γ κ : Type}

structure Observer (κ : Type) where
  registered : Registered κ
  failures : Nat := 0

def Observer.next (observer : Observer κ) : Sequel → List (Observer κ)
  | .again failures _ => [{ observer with failures }]
  | .ended => []

theorem Observer.mem_next {observer other : Observer κ} {sequel : Sequel}
    (h : other ∈ observer.next sequel)
    : other.registered = observer.registered := by
  unfold next at h
  split at h
  . rw [List.mem_singleton] at h
    rw [h]
  . contradiction

variable [DecidableEq κ]

theorem Shown.follow {lamps : Table κ Lamp} {component : Component κ} {hub : Hub}
    (h : Shown lamps component hub) {registered : Registered κ}
    (hregistered : IsRegistered component registered) {lamp : Lamp}
    (hlamp : lamps.find? registered.light = some lamp) (failures : Nat)
    (answer : Except Error Response)
    : Shown (lamps.insert registered.light
          (lamp.follow registered.entityId failures answer hub).2.1) component
        (lamp.follow registered.entityId failures answer hub).2.2 := by
  unfold Lamp.follow
  split
  . exact h.show hregistered _
  -- A lamp that is observed again later stays what it is.
  . rw [Table.insert_find? hlamp]
    exact h
  . exact h.show hregistered _

structure Site (γ κ : Type) where
  fleet : Fleet γ κ
  hub : Hub
  component : Component κ := {}
  observers : List (Observer κ) := []
  jobs : List (Job κ) := []

namespace Site

def add (site : Site γ κ) (handles : List κ) : Site γ κ :=
  let (_, component, hub) := site.component.add site.fleet.view site.hub handles
  let added := component.lights.values.drop site.component.lights.size
  { site with
    component
    hub
    observers := site.observers ++ added.map fun registered => { registered } }

def observe (site : Site γ κ) (before : List (Observer κ)) (observer : Observer κ)
    (after : List (Observer κ)) (lamp : Lamp) (answer : Except Error Response) : Site γ κ :=
  let (sequel, lamp, hub) :=
    lamp.follow observer.registered.entityId observer.failures answer site.hub
  { site with
    fleet := { site.fleet with lamps := site.fleet.lamps.insert observer.registered.light lamp }
    hub
    observers := before ++ observer.next sequel ++ after }

def begin (site : Site γ κ) (call : ServiceCall) (plan : Lamp → List Action) : Site γ κ :=
  let job := Job.start plan call.context (site.component.targets call) site.fleet
  { site with jobs := site.jobs ++ [job] }

def proceed (site : Site γ κ) (api : Api γ) (before : List (Job κ)) (job : Job κ)
    (after : List (Job κ)) : Site γ κ :=
  let (next, fleet, hub) := job.proceed api site.fleet site.hub
  { site with fleet, hub, jobs := before ++ next.jobs ++ after }

inductive Step (site : Site γ κ) : Site γ κ → Prop where
  | make (handle : κ) (lamp : Lamp)
    (hother : ∀ registered ∈ site.component.lights.values, registered.light ≠ handle) :
    Step site
      { site with fleet := { site.fleet with lamps := site.fleet.lamps.insert handle lamp } }
  | add (handles : List κ) (hdistinct : handles.Nodup)
    (hmade : ∀ handle ∈ handles, (site.fleet.lamps.find? handle).isSome)
    (hother : ∀ handle ∈ handles, ∀ registered ∈ site.component.lights.values,
      registered.light ≠ handle) :
    Step site (site.add handles)
  | observe (before : List (Observer κ)) (observer : Observer κ) (after : List (Observer κ))
    (hobservers : site.observers = before ++ observer :: after) (lamp : Lamp)
    (hlamp : site.fleet.lamps.find? observer.registered.light = some lamp)
    (answer : Except Error Response) :
    Step site (site.observe before observer after lamp answer)
  | turnOn (call : ServiceCall) (params : TurnOnParams)
    (hparams : TurnOnParams.ofJson call.data = .ok params) :
    Step site (site.begin call (·.turnOnPlan params))
  | turnOff (call : ServiceCall) (params : TurnOffParams)
    (hparams : TurnOffParams.ofJson call.data = .ok params) :
    Step site (site.begin call Lamp.turnOffPlan)
  | proceed (api : Api γ) (before : List (Job κ)) (job : Job κ) (after : List (Job κ))
    (hjobs : site.jobs = before ++ job :: after) :
    Step site (site.proceed api before job after)
  | stop : Step site { site with observers := [] }
  | write (w : Write) (hother : site.component.lights.find? w.entityId.text = none) :
    Step site { site with hub := (site.hub.write w).2 }

structure Inv (site : Site γ κ) : Prop where
  shown : Shown site.fleet.lamps site.component site.hub
  observed : ∀ observer ∈ site.observers, IsRegistered site.component observer.registered
  targeted : ∀ job ∈ site.jobs, ∀ target ∈ job.targets,
    (site.fleet.lamps.find? target.light).isSome

theorem polled_view (lamp : Lamp) : lamp.view.polled = false := by
  unfold Lamp.view
  split
  . rfl
  . rfl

theorem showPolled_view (fleet : Fleet γ κ) (hub : Hub) {handle : κ}
    (h : (fleet.lamps.find? handle).isSome) (entityId : EntityId) (context : Context)
    : hub.showPolled entityId (fleet.view handle) context = hub := by
  obtain ⟨lamp, hlamp⟩ := Option.isSome_iff_exists.1 h
  unfold Hub.showPolled Fleet.view
  rw [hlamp]
  rw [if_neg]
  simp [polled_view]

theorem proceed_job (api : Api γ) (job : Job κ) (fleet : Fleet γ κ) (hub : Hub)
    (htargets : ∀ target ∈ job.targets, (fleet.lamps.find? target.light).isSome)
    : (job.proceed api fleet hub).2.1.lamps = fleet.lamps
      ∧ (job.proceed api fleet hub).2.2 = hub
      ∧ ∀ job' ∈ (job.proceed api fleet hub).1.jobs, ∀ target ∈ job'.targets,
        target ∈ job.targets := by
  obtain ⟨plan, context, targets, actions⟩ := job
  unfold Job.proceed
  dsimp only at htargets ⊢
  -- Nothing is left, or a change is sent, or a target is done, which as a lamp is not polled.
  split
  . simp [Job.Next.jobs]
  . next target rest action actions' =>
    have hlamps := Fleet.lamps_carryOut api (fun _ => [action]) target.light fleet
    cases hresult : fleet.carryOut api (fun _ => [action]) target.light with
    | mk outcome fleet' =>
      rw [hresult] at hlamps
      cases outcome with
      | error failure => exact ⟨hlamps, rfl, by simp [Job.Next.jobs]⟩
      | ok => exact ⟨hlamps, rfl, by simp [Job.Next.jobs]⟩
  . next target rest =>
    refine ⟨rfl, ?_, ?_⟩
    . apply showPolled_view
      exact htargets target (by simp)
    . simp only [Job.Next.jobs, Job.start, List.mem_singleton, forall_eq]
      intro other hother
      exact List.mem_cons_of_mem _ hother

theorem Inv.targets {site : Site γ κ} (h : Inv site) (call : ServiceCall)
    {target : Registered κ} (htarget : target ∈ site.component.targets call)
    : (site.fleet.lamps.find? target.light).isSome := by
  unfold Component.targets at htarget
  obtain ⟨key, _, hkey⟩ := List.mem_filterMap.1 htarget
  obtain ⟨lamp, _, hlamp, _⟩ := h.shown.shows key target hkey
  rw [hlamp]
  rfl

theorem inv_start (fleet : Fleet γ κ) (hub : Hub) : Inv ({ fleet, hub } : Site γ κ) := by
  constructor
  . exact shown_empty
  . simp
  . simp

theorem isSome_insert {lamps : Table κ Lamp} {handle : κ} (other : κ) (lamp : Lamp)
    (h : (lamps.find? handle).isSome)
    : ((lamps.insert other lamp).find? handle).isSome := by
  rw [Table.find?_insert]
  split
  . rfl
  . exact h

theorem inv_make {site : Site γ κ} (h : Inv site) {handle : κ} (lamp : Lamp)
    (hother : ∀ registered ∈ site.component.lights.values, registered.light ≠ handle)
    : Inv { site with
        fleet := { site.fleet with lamps := site.fleet.lamps.insert handle lamp } } := by
  constructor
  . exact h.shown.insert lamp hother
  . exact h.observed
  . intro job hjob target htarget
    exact isSome_insert handle lamp (h.targeted job hjob target htarget)

theorem inv_add {site : Site γ κ} (h : Inv site) {handles : List κ} (hdistinct : handles.Nodup)
    (hmade : ∀ handle ∈ handles, (site.fleet.lamps.find? handle).isSome)
    (hother : ∀ handle ∈ handles, ∀ registered ∈ site.component.lights.values,
      registered.light ≠ handle)
    : Inv (site.add handles) := by
  obtain ⟨hshown, hkept⟩ := h.shown.add site.fleet hdistinct hmade hother
  constructor
  . exact hshown
  . intro observer hobserver
    cases List.mem_append.1 hobserver with
    | inl hold => exact hkept _ (h.observed observer hold)
    | inr hnew =>
      obtain ⟨registered, hregistered, rfl⟩ := List.mem_map.1 hnew
      obtain ⟨key, hkey⟩ := Table.mem_values_iff.1 (List.mem_of_mem_drop hregistered)
      exact hshown.isRegistered hkey
  . exact h.targeted

theorem inv_observe {site : Site γ κ} (h : Inv site) {before : List (Observer κ)}
    {observer : Observer κ} {after : List (Observer κ)}
    (hobservers : site.observers = before ++ observer :: after) {lamp : Lamp}
    (hlamp : site.fleet.lamps.find? observer.registered.light = some lamp)
    (answer : Except Error Response)
    : Inv (site.observe before observer after lamp answer) := by
  have hregistered := h.observed observer (by simp [hobservers])
  constructor
  . exact h.shown.follow hregistered hlamp observer.failures answer
  . intro other hother
    unfold observe at hother
    dsimp only at hother
    rw [List.append_assoc, List.mem_append, List.mem_append] at hother
    rcases hother with hbefore | hnext | hafter
    . exact h.observed other (by simp [hobservers, hbefore])
    . rw [Observer.mem_next hnext]
      exact hregistered
    . exact h.observed other (by simp [hobservers, hafter])
  . intro job hjob target htarget
    exact isSome_insert _ _ (h.targeted job hjob target htarget)

theorem inv_begin {site : Site γ κ} (h : Inv site) (call : ServiceCall)
    (plan : Lamp → List Action)
    : Inv (site.begin call plan) := by
  constructor
  . exact h.shown
  . exact h.observed
  . intro job hjob target htarget
    cases List.mem_append.1 hjob with
    | inl hold => exact h.targeted job hold target htarget
    | inr hnew =>
      rw [List.mem_singleton] at hnew
      rw [hnew] at htarget
      exact h.targets call htarget

theorem inv_proceed {site : Site γ κ} (h : Inv site) (api : Api γ) {before : List (Job κ)}
    {job : Job κ} {after : List (Job κ)} (hjobs : site.jobs = before ++ job :: after)
    : Inv (site.proceed api before job after) := by
  have htargets := h.targeted job (by simp [hjobs])
  obtain ⟨hlamps, hhub, hnext⟩ := proceed_job api job site.fleet site.hub htargets
  constructor
  . unfold proceed
    dsimp only
    rw [hlamps, hhub]
    exact h.shown
  . exact h.observed
  . intro other hother target htarget
    unfold proceed at hother ⊢
    dsimp only at hother ⊢
    rw [hlamps]
    rw [List.append_assoc, List.mem_append, List.mem_append] at hother
    rcases hother with hbefore | hjob | hafter
    . exact h.targeted other (by simp [hjobs, hbefore]) target htarget
    . exact htargets target (hnext other hjob target htarget)
    . exact h.targeted other (by simp [hjobs, hafter]) target htarget

theorem inv_step {site next : Site γ κ} (h : Inv site) (hstep : Step site next) : Inv next := by
  cases hstep with
  | make handle lamp hother => exact inv_make h lamp hother
  | add handles hdistinct hmade hother => exact inv_add h hdistinct hmade hother
  | observe before observer after hobservers lamp hlamp answer =>
    exact inv_observe h hobservers hlamp answer
  | turnOn call params hparams => exact inv_begin h call _
  | turnOff call params hparams => exact inv_begin h call _
  | proceed api before job after hjobs => exact inv_proceed h api hjobs
  | stop =>
    constructor
    . exact h.shown
    . simp
    . exact h.targeted
  | write w hother =>
    constructor
    . exact h.shown.write w hother
    . exact h.observed
    . exact h.targeted

theorem dispatch_lamps (api : Api γ) (plan : Lamp → List Action) (context : Context)
    {targets : List (Registered κ)} (fleet : Fleet γ κ) (hub : Hub)
    (htargets : ∀ target ∈ targets, (fleet.lamps.find? target.light).isSome)
    : let (_, fleet', hub') :=
        Component.dispatch Fleet.view (Fleet.carryOut api plan) context targets fleet hub
      fleet'.lamps = fleet.lamps ∧ hub' = hub := by
  induction targets generalizing fleet with
  | nil => exact ⟨rfl, rfl⟩
  -- The other targets are lamps behind the command too, for it changes none.
  | cons target rest ih =>
    have hlamps := Fleet.lamps_carryOut api plan target.light fleet
    unfold Component.dispatch
    cases hresult : fleet.carryOut api plan target.light with
    | mk outcome after =>
      rw [hresult] at hlamps
      cases outcome with
      | error failure => exact ⟨hlamps, rfl⟩
      | ok =>
        dsimp only at hlamps ⊢
        rw [← hlamps] at htargets
        rw [showPolled_view after hub (htargets target (by simp))]
        rw [← hlamps]
        exact ih after fun other hother => htargets other (List.mem_cons_of_mem _ hother)

theorem Inv.serve {site : Site γ κ} (h : Inv site) {π : Type} (decode : Json.Decoder π)
    (api : Api γ) (plan : π → Lamp → List Action) (call : ServiceCall)
    : let (_, fleet, hub) := site.component.serve Fleet.view decode
        (fun params => Fleet.carryOut api (plan params)) call site.fleet site.hub
      fleet.lamps = site.fleet.lamps ∧ hub = site.hub := by
  unfold Component.serve
  cases decode call.data with
  | error e => exact ⟨rfl, rfl⟩
  | ok params =>
    apply dispatch_lamps
    intro target htarget
    exact h.targets call htarget

def unregistered : Site Unit Nat where
  fleet :=
    { gateway := ()
      lamps := (∅ : Table Nat Lamp).insert 0
        (.ofGroup { id := 131073, name := "Desk" } { maxAttempts := 1 }) }
  hub := .simulated

def litLamp : Lamp :=
  .ofGroup { id := 131073, name := "Desk", state := true, dimmer := 254 } { maxAttempts := 1 }

def deskAdded : Site Unit Nat :=
  unregistered.add [0]

def lampLit : Site Unit Nat :=
  deskAdded.observe [] { registered := ⟨.desk, 0⟩ } []
    (.ofGroup { id := 131073, name := "Desk" } { maxAttempts := 1 })
    (.ok (.group { id := 131073, name := "Desk", state := true, dimmer := 254 }))

def gaveUp : Site Unit Nat :=
  lampLit.observe [] { registered := ⟨.desk, 0⟩ } [] litLamp (.error (.gateway "offline"))

end Site

end HomeHub.Gateway
