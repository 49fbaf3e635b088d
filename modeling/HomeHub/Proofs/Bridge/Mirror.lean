import HomeHub.Proofs.Bridge.Build
import HomeHub.Proofs.Bridge.Services
import Mathlib.Logic.Relation

/-!
A bridge mirrors the hub: however writes of clients, the services they call, writes of others and
receptions come one after the other, in the end every switch shows whether its entity is on.

A switch that waits lets one change pass, and that need not be the one its client caused. What
carries the proof is that the value on show is then still to come, from a call or a change; so the
last change agrees with it, or is not the last.
-/

namespace HomeHub.Bridge

variable {σ η : Type}

/-- What a switch shows agrees with its entity, or will do so once all is done and read. -/
structure InStep (awaiting on : Bool) (pending : List Bool) (present : Bool)
    (called : Bool → Prop) : Prop where
  waits : awaiting = true → called on ∨ on ∈ pending
  agrees : awaiting = false → pending = [] → (∀ value, ¬ called value) → on = present

theorem InStep.evolve {awaiting on : Bool} {pending : List Bool} {present : Bool}
    {called called' : Bool → Prop} (h : InStep awaiting on pending present called)
    (values : List Bool) (hcalled : ∀ value, called value → called' value ∨ value ∈ values)
    : InStep awaiting on (pending ++ values) (values.getLast?.getD present) called' := by
  constructor
  . intro hawaiting
    cases h.waits hawaiting with
    | inl hcall =>
      cases hcalled on hcall with
      | inl hcall' => exact .inl hcall'
      | inr hvalue => exact .inr (List.mem_append_right _ hvalue)
    | inr hpending => exact .inr (List.mem_append_left _ hpending)
  . intro hawaiting hpending hnone
    obtain ⟨rfl, rfl⟩ := List.append_eq_nil_iff.1 hpending
    apply h.agrees hawaiting rfl
    intro value hcall
    cases hcalled value hcall with
    | inl hcall' => exact hnone value hcall'
    | inr hvalue => contradiction

theorem InStep.receive {awaiting on value : Bool} {pending : List Bool} {present : Bool}
    {called : Bool → Prop} (h : InStep awaiting on (value :: pending) present called)
    (hlast : ∀ last, (value :: pending).getLast? = some last → last = present)
    : InStep false (if awaiting then on else value) pending present called := by
  constructor
  . intro hfalse
    contradiction
  . intro _ hpending hnone
    subst hpending
    have hvalue : value = present := hlast value rfl
    split
    . next hawaiting =>
      -- What is on show is still to come, and no call is left: it is the change itself.
      cases h.waits hawaiting with
      | inl hcall => exact absurd hcall (hnone on)
      | inr hmem =>
        rw [List.mem_singleton] at hmem
        rw [hmem]
        exact hvalue
    . exact hvalue

structure Follower.Mirrors (hub : Hub) (calls : List Request) (follower : Follower) : Prop where
  supported : typeFor? follower.switch.entityId.domain = some switchService
  inStep : ∃ receiver pending present on, follower.receiver = some receiver
    ∧ hub.Queue receiver follower.switch.entityId pending present
    ∧ follower.switch.accessory.IsOn on
    ∧ InStep follower.switch.awaiting on pending present
        (Request.move follower.switch.entityId · ∈ calls)

theorem Follower.Mirrors.evolve {hub later : Hub} {calls calls' : List Request}
    {follower : Follower} (h : follower.Mirrors hub calls) {writes : List Write}
    (hevolves : hub.Evolves writes later)
    (hcalls : ∀ on, .move follower.switch.entityId on ∈ calls →
      .move follower.switch.entityId on ∈ calls'
        ∨ on ∈ Write.values follower.switch.entityId writes)
    : follower.Mirrors later calls' := by
  obtain ⟨receiver, pending, present, on, hreceiver, hqueue, hon, hstep⟩ := h.inStep
  exact ⟨h.supported, receiver, _, _, on, hreceiver, hqueue.evolves hevolves, hon,
    hstep.evolve _ hcalls⟩

theorem Follower.Mirrors.receive {hub : Hub} {calls : List Request} {follower : Follower}
    (h : follower.Mirrors hub calls)
    (hlost : ∀ receiver, follower.receiver = some receiver → hub.bus.lost receiver = 0)
    : (follower.receive hub.bus).Mirrors hub calls := by
  obtain ⟨receiver, pending, present, on, hreceiver, hqueue, hon, hstep⟩ := h.inStep
  unfold Follower.receive
  rw [hreceiver]
  dsimp only
  cases hunread : hub.bus.unread StateChange.ofJson receiver with
  -- Only events that are no changes may be left, and they are passed over.
  | nil =>
    obtain ⟨next, hreceive, hwithin, hrest⟩ := Bus.receiveAs_of_unread_nil StateChange.ofJson
      (hlost receiver hreceiver) hqueue.within hunread
    rw [hreceive]
    have hpending : hub.pending { receiver with next } follower.switch.entityId = pending := by
      rw [← hqueue.pending_eq]
      unfold Hub.pending
      rw [hunread, hrest]
    have hnone : pending = [] ++ pending := by rfl
    rw [hnone] at hqueue
    exact ⟨h.supported, _, pending, present, on, rfl, hqueue.read hwithin hpending, hon, hstep⟩
  | cons event rest =>
    obtain ⟨next, hreceive, hwithin, hrest⟩ := Bus.receiveAs_of_unread_cons StateChange.ofJson
      (hlost receiver hreceiver) hunread
    rw [hreceive]
    dsimp only
    have hpending := Hub.pending_of_unread follower.switch.entityId hunread hrest
    rw [hqueue.pending_eq] at hpending
    subst hpending
    have hread := hqueue.read hwithin rfl
    split
    . next hentity =>
      rw [if_pos hentity] at hqueue hstep
      cases hnew : event.data.new with
      | none =>
        rw [hnew] at hstep
        exact ⟨h.supported, _, _, present, on, rfl, hread, hon, hstep⟩
      | some state =>
        rw [hnew] at hqueue hstep
        obtain ⟨hsame, hawaiting, hshown⟩ := Switch.reflect_some hon state
        refine ⟨?_, _, hub.pending { receiver with next } follower.switch.entityId, present, _,
          rfl, ?_, hshown, ?_⟩
        . rw [hsame]
          exact h.supported
        . rw [hsame]
          exact hread
        . rw [hsame, hawaiting]
          exact hstep.receive hqueue.last
    . next hentity =>
      rw [if_neg hentity] at hstep
      exact ⟨h.supported, _, _, present, on, rfl, hread, hon, hstep⟩

theorem Follower.Mirrors.write {hub : Hub} {calls : List Request} {follower : Follower}
    (h : follower.Mirrors hub calls) (value : Bool)
    : ∃ written, follower.switch.write onName (.bool value)
          = .ok (written, some (.move follower.switch.entityId value))
        ∧ { follower with switch := written }.Mirrors hub
            (calls ++ [Request.move follower.switch.entityId value]) := by
  obtain ⟨receiver, pending, present, on, hreceiver, hqueue, hon, hstep⟩ := h.inStep
  obtain ⟨written, hwrite, hsame, hawaiting, hshown⟩ := Switch.write_on hon value
  refine ⟨written, hwrite, ?_, receiver, pending, present, value, hreceiver, ?_, hshown, ?_⟩
  . rw [hsame]
    exact h.supported
  . rw [hsame]
    exact hqueue
  . dsimp only
    rw [hsame, hawaiting]
    constructor
    . intro
      left
      simp
    . intro hfalse
      contradiction

structure Mirror (σ : Type) where
  hub : Hub
  env : σ
  bridge : Bridge
  calls : List Request := []

namespace Mirror

def complete (services : Services σ η) (mirror : Mirror σ) (before : List Request)
    (request : Request) (after : List Request) : Mirror σ :=
  let (_, hub, env) := services.perform request (mirror.hub, mirror.env)
  { mirror with hub, env, calls := before ++ after }

def KeepsUp (mirror : Mirror σ) (aid : Nat) : Prop :=
  ∀ follower ∈ mirror.bridge.followers.find? aid, ∀ receiver ∈ follower.receiver,
    mirror.hub.bus.lost receiver = 0

instance (mirror : Mirror σ) (aid : Nat) : Decidable (mirror.KeepsUp aid) :=
  inferInstanceAs (Decidable (∀ follower ∈ _, _))

inductive Step (services : Services σ η) (mirror : Mirror σ) : Mirror σ → Prop where
  | write (aid : Nat) (on : Bool) {bridge : Bridge} {request : Request}
    (h : mirror.bridge.beginWrite aid onName (.bool on) = .ok (bridge, some request)) :
    Step services mirror { mirror with bridge, calls := mirror.calls ++ [request] }
  | complete (before : List Request) (request : Request) (after : List Request)
    (h : mirror.calls = before ++ request :: after) :
    Step services mirror (mirror.complete services before request after)
  | others {writes : List Write} {later : Hub} (h : mirror.hub.Evolves writes later) :
    Step services mirror { mirror with hub := later }
  | receive (aid : Nat) (h : mirror.KeepsUp aid) :
    Step services mirror { mirror with bridge := mirror.bridge.receive mirror.hub.bus aid }

structure Inv (mirror : Mirror σ) : Prop where
  mirrors : ∀ aid follower, mirror.bridge.followers.find? aid = some follower →
    follower.Mirrors mirror.hub mirror.calls
  calls : ∀ request ∈ mirror.calls, ∃ entityId on,
    typeFor? entityId.domain = some switchService ∧ request = .move entityId on

theorem inv_write {mirror : Mirror σ} (h : Inv mirror) {aid : Nat} {on : Bool} {bridge : Bridge}
    {request : Request}
    (hwrite : mirror.bridge.beginWrite aid onName (.bool on) = .ok (bridge, some request))
    : Inv { mirror with bridge, calls := mirror.calls ++ [request] } := by
  unfold beginWrite at hwrite
  cases hfind : mirror.bridge.followers.find? aid with
  | none =>
    rw [hfind] at hwrite
    contradiction
  | some follower =>
    have hfollower := h.mirrors aid follower hfind
    obtain ⟨written, hwritten, hmirrors⟩ := hfollower.write on
    rw [hfind] at hwrite
    dsimp only at hwrite
    rw [hwritten] at hwrite
    cases hwrite
    constructor
    . intro other another hother
      dsimp only at hother ⊢
      rw [Table.find?_insert] at hother
      split at hother
      . cases hother
        exact hmirrors
      -- The others mirror on, with one call more that is none of theirs.
      . apply (h.mirrors other another hother).evolve Hub.Evolves.refl
        intro value hcall
        exact .inl (List.mem_append_left _ hcall)
    . intro request hrequest
      cases List.mem_append.1 hrequest with
      | inl hold => exact h.calls request hold
      | inr hnew =>
        rw [List.mem_singleton] at hnew
        exact ⟨_, _, hfollower.supported, hnew⟩

theorem inv_complete {services : Services σ η} {mirror : Mirror σ} (h : Inv mirror)
    {before after : List Request} {entityId : EntityId} {on : Bool}
    (hcalls : mirror.calls = before ++ .move entityId on :: after)
    (hserves : services.Serves entityId on mirror.hub mirror.env)
    : Inv (mirror.complete services before (.move entityId on) after) := by
  obtain ⟨writes, later, env, hperform, hevolves, hvalues⟩ := hserves
  unfold complete
  rw [hperform]
  constructor
  . intro aid follower hfind
    apply (h.mirrors aid follower hfind).evolve hevolves
    intro value hcall
    rw [hcalls] at hcall
    rw [List.mem_append, List.mem_cons] at hcall
    rcases hcall with hbefore | hsame | hafter
    . exact .inl (List.mem_append_left _ hbefore)
    -- The call that has ended is in what it has written.
    . obtain ⟨hentity, hvalue⟩ := move_inj hsame
      right
      rw [hentity, hvalues, hvalue]
      simp
    . exact .inl (List.mem_append_right _ hafter)
  . intro other hother
    apply h.calls
    rw [hcalls]
    cases List.mem_append.1 hother with
    | inl hbefore => exact List.mem_append_left _ hbefore
    | inr hafter => exact List.mem_append_right _ (List.mem_cons_of_mem _ hafter)

/-- If a call ends with the step, then it has been served. -/
structure ServedStep (services : Services σ η) (mirror next : Mirror σ) : Prop where
  step : Step services mirror next
  served : ∀ before entityId on after, mirror.calls = before ++ .move entityId on :: after →
    next = mirror.complete services before (.move entityId on) after →
      services.Serves entityId on mirror.hub mirror.env

theorem inv_step {services : Services σ η} {mirror next : Mirror σ} (h : Inv mirror)
    (hstep : ServedStep services mirror next)
    : Inv next := by
  obtain ⟨hstep, hserved⟩ := hstep
  cases hstep with
  | write aid on hwrite => exact inv_write h hwrite
  | complete before request after hcalls =>
    obtain ⟨entityId, on, _, rfl⟩ := h.calls request (by simp [hcalls])
    exact inv_complete h hcalls (hserved before entityId on after hcalls rfl)
  | others hevolves =>
    constructor
    . intro aid follower hfind
      apply (h.mirrors aid follower hfind).evolve hevolves
      intro value hcall
      exact .inl hcall
    . exact h.calls
  | receive aid hkeeps =>
    constructor
    . intro other follower hfind
      unfold Bridge.receive at hfind
      dsimp only at hfind ⊢
      rw [Table.find?_modify] at hfind
      split at hfind
      . next hsame =>
        obtain ⟨old, hold, rfl⟩ := Option.map_eq_some_iff.1 hfind
        apply (h.mirrors other old hold).receive
        intro receiver hreceiver
        rw [← hsame] at hold
        exact hkeeps old hold receiver hreceiver
      . exact h.mirrors other follower hfind
    . exact h.calls

theorem inv_run {services : Services σ η} {first mirror : Mirror σ} (h : Inv first)
    (hrun : Relation.ReflTransGen (ServedStep services) first mirror)
    : Inv mirror := by
  induction hrun with
  | refl => exact h
  | tail _ hstep ih => exact inv_step ih hstep

theorem servedStep_of_areDutiful {services : Services σ η} (hdutiful : services.AreDutiful)
    {mirror next : Mirror σ} (h : Inv mirror) (hstep : Step services mirror next)
    : ServedStep services mirror next := by
  refine ⟨hstep, ?_⟩
  intro before entityId on after hcalls _
  -- Only commands of switches are called, and these are what the services are dutiful about.
  obtain ⟨entityId', on', hsupported, hrequest⟩ := h.calls (.move entityId on) (by simp [hcalls])
  obtain ⟨rfl, rfl⟩ := move_inj hrequest
  exact hdutiful.serves hsupported on mirror.hub mirror.env

theorem servedRun_of_areDutiful {services : Services σ η} (hdutiful : services.AreDutiful)
    {first mirror : Mirror σ} (h : Inv first)
    (hrun : Relation.ReflTransGen (Step services) first mirror)
    : Relation.ReflTransGen (ServedStep services) first mirror := by
  induction hrun with
  | refl => exact .refl
  | tail _ hstep ih => exact ih.tail (servedStep_of_areDutiful hdutiful (inv_run h ih) hstep)

theorem mirrors_follow {hub : Hub} {states : List State} {follower : Follower} {state : State}
    (h : follower.Made states) (hstate : hub.state? follower.switch.entityId.text = some state)
    (calls : List Request)
    : (follower.follow hub).Mirrors hub calls := by
  obtain ⟨hsame, hawaiting, hshown⟩ := Switch.reflect_some h.isOn state
  rw [h.awaiting] at hshown
  unfold Follower.follow
  rw [hstate]
  constructor
  . dsimp only
    rw [hsame]
    exact h.supported
  . refine ⟨_, [], state.isOn, state.isOn, rfl, ?_, hshown, ?_⟩
    . dsimp only
      rw [hsame]
      exact Hub.queue_subscribe hstate
    . dsimp only
      rw [hawaiting]
      constructor
      . intro hfalse
        contradiction
      . intro _ _ _
        rfl

theorem inv_start {config : Config} {states : List State} {bridge : Bridge} {hub later : Hub}
    (hstates : states.Perm hub.states.values)
    (hbuild : build builtinTypes config states = .ok bridge) {writes : List Write}
    (hevolves : hub.Evolves writes later) (env : σ)
    : Inv { hub := later, env, bridge := bridge.start later } := by
  constructor
  . intro aid follower hfind
    dsimp only at hfind ⊢
    rw [start_of_build hbuild] at hfind
    rw [find?_mapFollowers] at hfind
    obtain ⟨made, hmade, rfl⟩ := Option.map_eq_some_iff.1 hfind
    have hspec := made_of_build hbuild hmade
    obtain ⟨state, hstate⟩ := Option.isSome_iff_exists.1
      (Hub.isSome_state?_evolves hevolves (hspec.isSome_state? hstates))
    exact mirrors_follow hspec hstate []
  . simp

theorem Inv.on_of_drained {mirror : Mirror σ} (h : Inv mirror) (hcalls : mirror.calls = [])
    {aid : Nat} {follower : Follower}
    (hfind : mirror.bridge.followers.find? aid = some follower)
    (hdrained : follower.unread mirror.hub.bus = 0)
    : ∃ state, mirror.hub.state? follower.switch.entityId.text = some state
        ∧ follower.switch.on? = some (.bool state.isOn) := by
  obtain ⟨receiver, pending, present, on, hreceiver, hqueue, hon, hstep⟩ :=
    (h.mirrors aid follower hfind).inStep
  have hpending : pending = [] := by
    rw [← hqueue.pending_eq]
    exact Follower.pending_of_drained hdrained hreceiver _
  rw [hcalls] at hstep
  subst hpending
  -- A switch that waits has a call or a change still to come.
  have hawaiting : follower.switch.awaiting = false := by
    cases hawaiting : follower.switch.awaiting with
    | false => rfl
    | true => simpa using hstep.waits hawaiting
  obtain ⟨state, hstate, hpresent⟩ := hqueue.state
  refine ⟨state, hstate, ?_⟩
  rw [Switch.on?_of_isOn hon]
  rw [hpresent]
  rw [hstep.agrees hawaiting rfl (by simp)]

theorem on_of_servedRun {services : Services σ η} {config : Config} {states : List State}
    {bridge : Bridge} {hub later : Hub} (hstates : states.Perm hub.states.values)
    (hbuild : build builtinTypes config states = .ok bridge) {writes : List Write}
    (hevolves : hub.Evolves writes later) {env : σ} {mirror : Mirror σ}
    (hrun : Relation.ReflTransGen (ServedStep services)
      { hub := later, env, bridge := bridge.start later } mirror)
    (hcalls : mirror.calls = [])
    (hdrained : ∀ follower ∈ mirror.bridge.followers.values, follower.unread mirror.hub.bus = 0)
    : ∀ switch ∈ mirror.bridge.switches,
        ∃ state, mirror.hub.state? switch.entityId.text = some state
          ∧ switch.on? = some (.bool state.isOn) := by
  intro switch hswitch
  obtain ⟨follower, hfollower, rfl⟩ := List.mem_map.1 hswitch
  obtain ⟨aid, hfind⟩ := Table.mem_values_iff.1 hfollower
  have hinv := inv_run (inv_start hstates hbuild hevolves env) hrun
  exact hinv.on_of_drained hcalls hfind (hdrained follower hfollower)

theorem converges {services : Services σ η} (hdutiful : services.AreDutiful) {config : Config}
    {states : List State} {bridge : Bridge} {hub later : Hub}
    (hstates : states.Perm hub.states.values)
    (hbuild : build builtinTypes config states = .ok bridge) {writes : List Write}
    (hevolves : hub.Evolves writes later) {env : σ} {mirror : Mirror σ}
    (hrun : Relation.ReflTransGen (Step services)
      { hub := later, env, bridge := bridge.start later } mirror)
    (hcalls : mirror.calls = [])
    (hdrained : ∀ follower ∈ mirror.bridge.followers.values, follower.unread mirror.hub.bus = 0)
    : ∀ switch ∈ mirror.bridge.switches,
        ∃ state, mirror.hub.state? switch.entityId.text = some state
          ∧ switch.on? = some (.bool state.isOn) := by
  have hserved := servedRun_of_areDutiful hdutiful (inv_start hstates hbuild hevolves env) hrun
  exact on_of_servedRun hstates hbuild hevolves hserved hcalls hdrained

def kitchen : EntityId :=
  .ofLiteral "switch" "kitchen"

def kitchenHub : Hub :=
  (Hub.simulated.write ⟨kitchen, State.off, [], { id := "first" }⟩).2

def kitchenWrite (value id : String) : Write :=
  ⟨kitchen, value, [], { id }⟩

def kitchenAccessory : Accessory where
  displayName := "kitchen"
  entityId := kitchen
  category := switchCategory
  aid := 2
  services :=
    [{ name := informationService
       characteristics :=
         [⟨nameName, .string, .str "kitchen"⟩, ⟨manufacturerName, .string, .str manufacturer⟩,
          ⟨modelName, .string, .str switchCategory⟩,
          ⟨serialNumberName, .string, .str "switch.kitchen"⟩] },
     { name := switchService, characteristics := [⟨onName, .bool, .bool false⟩] }]

def kitchenBridge : Bridge where
  config := {}
  followers := (∅ : Table Nat Follower).insert 2 { switch := { accessory := kitchenAccessory } }

theorem build_kitchenHub : build builtinTypes {} kitchenHub.states.values = .ok kitchenBridge := by
  have hexposed : kitchenHub.states.values.filter (({} : Config).filter.exposes ·.entityId)
      = [(Hub.simulated.write ⟨kitchen, State.off, [], { id := "first" }⟩).1] := by rfl
  unfold build
  dsimp only
  rw [hexposed]
  rw [List.mergeSort_singleton]
  rfl

def commanded : Mirror Unit where
  hub := kitchenHub
  env := ()
  bridge :=
    { config := {}
      followers := (∅ : Table Nat Follower).insert 2
        { receiver := some ⟨StateChange.eventType, 1⟩
          switch :=
            { awaiting := true
              accessory := { kitchenAccessory with
                services := Accessory.replaceAmong ⟨onName, .bool, .bool true⟩
                  kitchenAccessory.services } } } }
  calls := [.move kitchen true]

def overwritten : Mirror Unit :=
  { commanded with hub := (commanded.hub.write ⟨kitchen, State.off, [], { id := "second" }⟩).2 }

def overwriteRead : Mirror Unit :=
  { overwritten with bridge := overwritten.bridge.receive overwritten.hub.bus 2 }

def callServed : Mirror Unit :=
  overwriteRead.complete Services.obedient [] (.move kitchen true) []

def drained : Mirror Unit :=
  { callServed with bridge := callServed.bridge.receive callServed.hub.bus 2 }

theorem converges_overwritten_call
    : Services.obedient.AreDutiful
      ∧ Relation.ReflTransGen (Step Services.obedient)
        { hub := kitchenHub, env := (), bridge := kitchenBridge.start kitchenHub } drained
      ∧ drained.bridge.switches.length = 1
      ∧ ∀ switch ∈ drained.bridge.switches,
        ∃ state, drained.hub.state? switch.entityId.text = some state
          ∧ switch.on? = some (.bool state.isOn) := by
  have hcommanded : Step Services.obedient
      { hub := kitchenHub, env := (), bridge := kitchenBridge.start kitchenHub } commanded :=
    Step.write 2 true (by rfl)
  have hoverwritten : Step Services.obedient commanded overwritten :=
    Step.others (Hub.evolves_write _ _)
  have hread : Step Services.obedient overwritten overwriteRead :=
    Step.receive 2 (by decide +kernel)
  have hserved : Step Services.obedient overwriteRead callServed := Step.complete [] _ [] (by rfl)
  have hdrained : Step Services.obedient callServed drained := Step.receive 2 (by decide +kernel)
  have hrun : Relation.ReflTransGen (Step Services.obedient)
      { hub := kitchenHub, env := (), bridge := kitchenBridge.start kitchenHub } drained :=
    ((((Relation.ReflTransGen.single hcommanded).tail hoverwritten).tail hread).tail hserved).tail
      hdrained
  have hconverges := converges Services.areDutiful_obedient (List.Perm.refl _) build_kitchenHub
    Hub.Evolves.refl hrun (by rfl) (by decide +kernel)
  exact ⟨Services.areDutiful_obedient, hrun, by rfl, hconverges⟩

end Mirror

end HomeHub.Bridge
