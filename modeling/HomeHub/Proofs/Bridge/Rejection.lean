import HomeHub.Proofs.Bridge.House
import HomeHub.Proofs.Bridge.Mirror

/-!
What a failed call leaves behind. The switch goes on waiting for the change of a command that was
not obeyed, and takes the next change of its entity for it, whoever it comes from.
-/

namespace HomeHub.Bridge

/--
A follower as the last command or the last change has left it. All that it has still to read of its
entity has been written by some writes.
-/
structure Follower.Holds (hub : Hub) (entityId : EntityId) (awaiting on : Bool)
    (writes : List Write) (follower : Follower) : Prop where
  follows : follower.switch.entityId = entityId
  awaiting : follower.switch.awaiting = awaiting
  isOn : follower.switch.accessory.IsOn on
  queue : ∃ receiver pending present, follower.receiver = some receiver
    ∧ hub.Queue receiver entityId pending present ∧ pending ⊆ Write.values entityId writes

namespace Follower.Holds

variable {hub : Hub} {entityId : EntityId} {awaiting on : Bool} {writes : List Write}
  {follower : Follower}

theorem evolve (h : follower.Holds hub entityId awaiting on writes) {more : List Write}
    {later : Hub} (hevolves : hub.Evolves more later)
    : follower.Holds later entityId awaiting on (writes ++ more) := by
  obtain ⟨receiver, pending, present, hreceiver, hqueue, hwritten⟩ := h.queue
  refine ⟨h.follows, h.awaiting, h.isOn, receiver, _, _, hreceiver, hqueue.evolves hevolves, ?_⟩
  rw [Hub.values_append]
  intro value hvalue
  cases List.mem_append.1 hvalue with
  | inl hold => exact List.mem_append_left _ (hwritten hold)
  | inr hnew => exact List.mem_append_right _ hnew

theorem write (h : follower.Holds hub entityId awaiting on writes) {characteristic : String}
    {value : Json} {switch : Switch} {request : Option Request}
    (hwrite : follower.switch.write characteristic value = .ok (switch, request))
    (hother : characteristic ≠ onName)
    : { follower with switch }.Holds hub entityId awaiting on writes := by
  obtain ⟨hentity, hawaiting, hon⟩ := Switch.write_of_ne hwrite hother
  constructor
  . exact hentity.trans h.follows
  . exact hawaiting.trans h.awaiting
  . exact hon on h.isOn
  . exact h.queue

theorem receive (h : follower.Holds hub entityId awaiting on writes) {awaiting' on' : Bool}
    (hswitch : (follower.receive hub.bus).switch.entityId = follower.switch.entityId
      ∧ (follower.receive hub.bus).switch.awaiting = awaiting'
      ∧ (follower.receive hub.bus).switch.accessory.IsOn on')
    : (follower.receive hub.bus).Holds hub entityId awaiting' on' writes := by
  obtain ⟨hentity, hawaiting, hon⟩ := hswitch
  obtain ⟨receiver, pending, present, hreceiver, hqueue, hwritten⟩ := h.queue
  obtain ⟨taken, rest, rfl, hrest, _⟩ := hqueue.receive
  refine ⟨hentity.trans h.follows, hawaiting, hon, _, rest, present, ?_, hrest, ?_⟩
  . rw [receiver_receive, hreceiver]
    rfl
  . intro value hvalue
    exact hwritten (List.mem_append_right _ hvalue)

theorem untold (h : follower.Holds hub entityId awaiting on writes)
    (hnews : follower.news? hub = none)
    : (follower.receive hub.bus).Holds hub entityId awaiting on writes := by
  apply h.receive
  rw [switch_receive, hnews]
  exact ⟨rfl, h.awaiting, h.isOn⟩

theorem told (h : follower.Holds hub entityId awaiting on writes) {state : State}
    (hnews : follower.news? hub = some state)
    : (follower.receive hub.bus).Holds hub entityId false (if awaiting then on else state.isOn)
        writes := by
  apply h.receive
  rw [switch_receive, hnews]
  have hreflect := Switch.reflect_some h.isOn state
  rw [h.awaiting] at hreflect
  exact hreflect

theorem written_of_told (h : follower.Holds hub entityId awaiting on writes) {state : State}
    (hnews : follower.news? hub = some state)
    : ∃ w ∈ writes, w.entityId = entityId ∧ state.isOn = (w.value == State.on) := by
  obtain ⟨receiver, pending, present, hreceiver, hqueue, hwritten⟩ := h.queue
  obtain ⟨taken, rest, rfl, _, htaken⟩ := hqueue.receive
  rw [news?_of_receiver hreceiver, h.follows] at hnews
  -- Something is told, so nothing was lost.
  have hlost : hub.bus.lost receiver = 0 := by
    apply Nat.eq_zero_of_not_pos
    intro hlost
    rw [Hub.news?_of_lost hlost] at hnews
    contradiction
  have hmem : state.isOn ∈ Write.values entityId writes := by
    apply hwritten
    rw [htaken hlost, hnews]
    simp
  unfold Write.values at hmem
  obtain ⟨w, hw, hvalue⟩ := List.mem_map.1 hmem
  rw [List.mem_filter, decide_eq_true_iff] at hw
  exact ⟨w, hw.1, hw.2, hvalue.symm⟩

end Follower.Holds

namespace House

def news? (house : House) (aid : Nat) : Option State :=
  (house.bridge.followers.find? aid).bind (·.news? house.hub)

def Act.Spares (aid : Nat) : Act → Prop
  | .write other characteristic _ => other = aid → characteristic ≠ onName
  | .stop => False
  | _ => True

/-- The acts spare a switch, and none of their receptions tells it anything of its entity. -/
def Silent (house : House) (aid : Nat) : List Act → Prop
  | [] => True
  | act :: acts =>
    act.Spares aid ∧ (act = .receive aid → house.news? aid = none)
      ∧ (house.step act).Silent aid acts

def Holds (house : House) (aid : Nat) (entityId : EntityId) (awaiting on : Bool)
    (writes : List Write) : Prop :=
  ∃ follower, house.bridge.followers.find? aid = some follower
    ∧ follower.Holds house.hub entityId awaiting on writes

variable {house : House} {aid : Nat} {entityId : EntityId} {awaiting on : Bool}
  {writes : List Write}

theorem holds_step (h : house.Holds aid entityId awaiting on writes) {act : Act}
    (hspares : act.Spares aid) (hnews : act = .receive aid → house.news? aid = none)
    : (house.step act).Holds aid entityId awaiting on (writes ++ act.writes) := by
  obtain ⟨follower, hfind, hholds⟩ := h
  refine ⟨house.after act aid follower, find?_step_of_find? hfind act,
    Follower.Holds.evolve ?_ (house.evolves_step act)⟩
  cases act with
  | set w => exact hholds
  | write other characteristic value =>
    dsimp only [after]
    split
    . next hsame =>
      split
      . next hwrite => exact hholds.write hwrite (hspares hsame)
      . exact hholds
    . exact hholds
  | receive other =>
    dsimp only [after]
    split
    . next hsame =>
      subst hsame
      have hnone := hnews rfl
      unfold news? at hnone
      rw [hfind] at hnone
      exact hholds.untold hnone
    . exact hholds
  -- The bridge runs already.
  | start =>
    obtain ⟨receiver, _, _, hreceiver, _⟩ := hholds.queue
    have hrunning : house.bridge.isRunning = true := by
      apply isRunning_iff.2
      refine ⟨aid, follower, hfind, ?_⟩
      rw [hreceiver]
      rfl
    dsimp only [after]
    rw [if_pos hrunning]
    exact hholds
  | stop => contradiction

theorem holds_run {acts : List Act} (h : house.Holds aid entityId awaiting on writes)
    (hsilent : house.Silent aid acts)
    : (house.run acts).Holds aid entityId awaiting on (writes ++ acts.flatMap Act.writes) := by
  induction acts generalizing house writes with
  | nil => simpa [run] using h
  | cons act acts ih =>
    obtain ⟨hspares, hnews, hsilent⟩ := hsilent
    have hlater := ih (holds_step h hspares hnews) hsilent
    rw [List.append_assoc] at hlater
    exact hlater

theorem holds_told (h : house.Holds aid entityId awaiting on writes) {state : State}
    (htold : house.news? aid = some state)
    : (house.step (.receive aid)).Holds aid entityId false (if awaiting then on else state.isOn)
        writes := by
  obtain ⟨follower, hfind, hholds⟩ := h
  unfold news? at htold
  rw [hfind] at htold
  exact ⟨_, find?_step_receive hfind, hholds.told htold⟩

theorem written_of_told (h : house.Holds aid entityId awaiting on writes) {state : State}
    (htold : house.news? aid = some state)
    : ∃ w ∈ writes, w.entityId = entityId ∧ state.isOn = (w.value == State.on) := by
  obtain ⟨follower, hfind, hholds⟩ := h
  unfold news? at htold
  rw [hfind] at htold
  exact hholds.written_of_told htold

theorem Holds.exists_switch (h : house.Holds aid entityId awaiting on writes)
    : ∃ switch, house.bridge.switch? aid = some switch ∧ switch.on? = some (.bool on) := by
  obtain ⟨follower, hfind, hholds⟩ := h
  refine ⟨follower.switch, ?_, Switch.on?_of_isOn hholds.isOn⟩
  unfold switch?
  rw [hfind]
  rfl

theorem mem_flatMap_writes {acts : List Act} {w : Write}
    : w ∈ acts.flatMap Act.writes ↔ .set w ∈ acts := by
  rw [List.mem_flatMap]
  constructor
  . intro h
    obtain ⟨act, hact, hw⟩ := h
    cases act with
    | set v =>
      obtain rfl := List.mem_singleton.1 hw
      exact hact
    | _ => contradiction
  . intro h
    exact ⟨.set w, h, List.mem_singleton.2 rfl⟩

theorem holds_write (h : house.Sound) (hrunning : house.bridge.isRunning = true)
    {follower : Follower} (hfind : house.bridge.followers.find? aid = some follower)
    (hdrained : follower.unread house.hub.bus = 0) (on : Bool)
    : (house.step (.write aid onName (.bool on))).Holds aid follower.switch.entityId true on
        [] := by
  have hfollower := h.follower aid follower hfind
  obtain ⟨shown, hon⟩ := hfollower.isOn
  obtain ⟨switch, hwrite, hentity, hawaiting, hwritten⟩ := Switch.write_on hon on
  have hreceiver := h.isSome_receiver hfind
  rw [hrunning] at hreceiver
  obtain ⟨receiver, hreceiver⟩ := Option.isSome_iff_exists.1 hreceiver
  obtain ⟨pending, present, hqueue⟩ := hfollower.queue receiver hreceiver
  refine ⟨{ follower with switch }, ?_, hentity, hawaiting, hwritten, receiver, pending, present,
    hreceiver, ?_, ?_⟩
  . rw [find?_step_of_find? hfind]
    dsimp only [after]
    rw [if_pos rfl, hwrite]
  . rw [hub_step_write]
    exact hqueue
  . rw [← hqueue.pending_eq]
    rw [Follower.pending_of_drained hdrained hreceiver]
    exact List.nil_subset _

/--
After a command whose call has failed and written nothing, the next change that the switch is told
of is not shown, and the one after it is.
-/
theorem hides_one_change {σ η : Type} {services : Services σ η} {config : Config}
    {states : List State} {bridge written : Bridge} {hub later : Hub}
    (hstates : states.Perm hub.states.values)
    (hbuild : build builtinTypes config states = .ok bridge) {before acts : List Act}
    {house : House} (hhouse : run { hub, bridge } before = house)
    (hrunning : house.bridge.isRunning = true) {aid : Nat} {follower : Follower}
    (hfind : house.bridge.followers.find? aid = some follower)
    (hdrained : follower.unread house.hub.bus = 0) {on : Bool} {env env' : σ} {e : ServiceError}
    (hwrite : house.bridge.write services.perform aid onName (.bool on) (house.hub, env)
      = ((.error (.service e), written), (later, env')))
    (hnothing : house.hub.Evolves [] later)
    (hsilent : Silent { hub := later, bridge := written } aid acts) {state : State}
    (htold : (run { hub := later, bridge := written } acts).news? aid = some state)
    : let told := run { hub := later, bridge := written } (acts ++ [.receive aid])
      (∃ w, .set w ∈ acts ∧ w.entityId = follower.switch.entityId
        ∧ state.isOn = (w.value == State.on))
      ∧ (∃ switch, told.bridge.switch? aid = some switch ∧ switch.on? = some (.bool on)
        ∧ (switch.on? = some (.bool state.isOn) ↔ state.isOn = on))
      ∧ ∀ more next, told.Silent aid more → (told.run more).news? aid = some next →
        ∃ switch, (told.run (more ++ [.receive aid])).bridge.switch? aid = some switch
          ∧ switch.on? = some (.bool next.isOn) := by
  intro told
  have hsound : house.Sound := by
    rw [← hhouse]
    exact sound_run (sound_of_build hstates hbuild) before
  have hcommanded := holds_write hsound hrunning hfind hdrained on
  have hwritten : (house.step (.write aid onName (.bool on))).bridge = written :=
    bridge_of_write hwrite
  obtain ⟨commanded, hcommand, hholds⟩ := hcommanded
  rw [hwritten] at hcommand
  rw [hub_step_write] at hholds
  -- The call leaves nothing to read: whatever is told later on has been written later on.
  have hrejected : Holds { hub := later, bridge := written } aid follower.switch.entityId true on
      [] := by
    exact ⟨commanded, hcommand, hholds.evolve hnothing⟩
  have hlast := holds_run hrejected hsilent
  have hhidden := holds_told hlast htold
  rw [← run_concat] at hhidden
  refine ⟨?_, ?_, ?_⟩
  . obtain ⟨w, hw, hentity, hvalue⟩ := written_of_told hlast htold
    exact ⟨w, mem_flatMap_writes.1 hw, hentity, hvalue⟩
  . obtain ⟨switch, hswitch, hon⟩ := hhidden.exists_switch
    refine ⟨switch, hswitch, hon, ?_⟩
    rw [hon]
    simp [eq_comm]
  . intro more next hsilent' htold'
    rw [run_concat]
    exact (holds_told (holds_run hhidden hsilent') htold').exists_switch

def noServices : Services Unit Empty where
  registry := {}
  run := nofun

def started : House :=
  run { hub := Mirror.kitchenHub, bridge := Mirror.kitchenBridge } [.start]

def afterRejection : House where
  hub := Mirror.kitchenHub.newContext.2
  bridge := (started.step (.write 2 onName (.bool true))).bridge

theorem write_noServices
    : started.bridge.write noServices.perform 2 onName (.bool true) (started.hub, ())
        =
      ((.error (.service (.notFound "switch" "turn_on")), afterRejection.bridge),
        (afterRejection.hub, ())) := by
  rfl

def switchedOn : List Act :=
  [.set (Mirror.kitchenWrite State.on "second")]

def switchedOff : List Act :=
  [.set (Mirror.kitchenWrite State.off "third")]

theorem hides_one_change_after_rejection
    : let told := afterRejection.run (switchedOn ++ [.receive 2])
      build builtinTypes {} Mirror.kitchenHub.states.values = .ok Mirror.kitchenBridge
        ∧ started.bridge.isRunning = true
        ∧ Silent afterRejection 2 switchedOn ∧ Silent told 2 switchedOff
        ∧ ((afterRejection.run switchedOn).news? 2).map State.isOn = some true
        ∧ ((told.run switchedOff).news? 2).map State.isOn = some false
        ∧ (∃ switch, told.bridge.switch? 2 = some switch ∧ switch.on? = some (.bool true))
        ∧ ∃ switch, (told.run (switchedOff ++ [.receive 2])).bridge.switch? 2 = some switch
          ∧ switch.on? = some (.bool false) := by
  intro told
  have hrunning : started.bridge.isRunning = true := by decide +kernel
  have hsilent : Silent afterRejection 2 switchedOn := ⟨trivial, by simp, trivial⟩
  have hsilent' : Silent told 2 switchedOff := ⟨trivial, by simp, trivial⟩
  have hnews : ((afterRejection.run switchedOn).news? 2).map State.isOn = some true := by
    decide +kernel
  have hnews' : ((told.run switchedOff).news? 2).map State.isOn = some false := by decide +kernel
  obtain ⟨state, htold, _⟩ := Option.map_eq_some_iff.1 hnews
  obtain ⟨next, htold', hoff⟩ := Option.map_eq_some_iff.1 hnews'
  obtain ⟨_, ⟨hidden, hhidden, hstill, _⟩, hlater⟩ :=
    hides_one_change (List.Perm.refl _) Mirror.build_kitchenHub rfl hrunning rfl (by decide +kernel)
      write_noServices Mirror.kitchenHub.evolves_newContext hsilent htold
  have hshown := hlater switchedOff next hsilent' htold'
  rw [hoff] at hshown
  exact ⟨Mirror.build_kitchenHub, hrunning, hsilent, hsilent', hnews, hnews',
    ⟨hidden, hhidden, hstill⟩, hshown⟩

def madeUnavailable : List Act :=
  [.set (Mirror.kitchenWrite State.unavailable "second")]

theorem not_shows_after_rejection
    : build builtinTypes {} Mirror.kitchenHub.states.values = .ok Mirror.kitchenBridge
      ∧ started.bridge.isRunning = true
      ∧ (∀ follower ∈ started.bridge.followers.find? 2, follower.unread started.hub.bus = 0)
      ∧ started.bridge.write noServices.perform 2 onName (.bool true) (started.hub, ())
          =
        ((.error (.service (.notFound "switch" "turn_on")), afterRejection.bridge),
          (afterRejection.hub, ()))
      ∧ ((run afterRejection madeUnavailable).news? 2).map State.isOn = some false
      ∧ ∃ switch,
        (run afterRejection (madeUnavailable ++ [.receive 2])).bridge.switch? 2 = some switch
        ∧ switch.on? = some (.bool true)
        ∧ ¬ switch.Shows (run afterRejection (madeUnavailable ++ [.receive 2])).hub := by
  refine ⟨Mirror.build_kitchenHub, by decide +kernel, by decide +kernel, write_noServices,
    by decide +kernel, _, rfl, rfl, ?_⟩
  rw [Switch.shows_iff_map rfl]
  decide +kernel

end House

end HomeHub.Bridge
