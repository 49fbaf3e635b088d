import HomeHub.Proofs.Bridge.Build
import HomeHub.Proofs.Hub.Evolution

/-!
A hub and its bridge, and all that can happen to them, one thing after another: states are written,
clients write, receivers receive however late, and the bridge is started and stopped. Whatever has
happened, a switch shows whether it is on, rightly or wrongly, and its entity has a state.
-/

namespace HomeHub.Bridge

def Switch.Shows (switch : Switch) (hub : Hub) : Prop :=
  ∃ state, hub.state? switch.entityId.text = some state ∧ switch.on? = some (.bool state.isOn)

theorem Switch.shows_iff_map {switch : Switch} {hub : Hub} {on : Bool}
    (hon : switch.on? = some (.bool on))
    : switch.Shows hub ↔ (hub.state? switch.entityId.text).map State.isOn = some on := by
  unfold Shows
  rw [hon]
  rw [Option.map_eq_some_iff]
  simp only [Option.some.injEq, Json.bool.injEq, eq_comm]

theorem Switch.shows_iff {switch : Switch} {hub : Hub} {on : Bool} {state : State}
    (hon : switch.accessory.IsOn on) (hstate : hub.state? switch.entityId.text = some state)
    : switch.Shows hub ↔ on = state.isOn := by
  rw [shows_iff_map (on?_of_isOn hon), hstate]
  simp [eq_comm]

theorem mem_switches_iff {bridge : Bridge} {switch : Switch}
    : switch ∈ bridge.switches
        ↔ ∃ aid follower, bridge.followers.find? aid = some follower
          ∧ follower.switch = switch := by
  unfold switches
  rw [List.mem_map]
  constructor
  . intro h
    obtain ⟨follower, hmem, hswitch⟩ := h
    obtain ⟨aid, hfind⟩ := Table.mem_values_iff.1 hmem
    exact ⟨aid, follower, hfind, hswitch⟩
  . intro h
    obtain ⟨aid, follower, hfind, hswitch⟩ := h
    exact ⟨follower, Table.mem_values_iff.2 ⟨aid, hfind⟩, hswitch⟩

theorem isRunning_iff {bridge : Bridge}
    : bridge.isRunning = true
        ↔ ∃ aid follower, bridge.followers.find? aid = some follower
          ∧ follower.receiver.isSome = true := by
  unfold isRunning
  rw [List.any_eq_true]
  constructor
  . intro h
    obtain ⟨follower, hmem, hreceiver⟩ := h
    obtain ⟨aid, hfind⟩ := Table.mem_values_iff.1 hmem
    exact ⟨aid, follower, hfind, hreceiver⟩
  . intro h
    obtain ⟨aid, follower, hfind, hreceiver⟩ := h
    exact ⟨follower, Table.mem_values_iff.2 ⟨aid, hfind⟩, hreceiver⟩

theorem isRunning_eq_of_all {bridge : Bridge} {running : Bool}
    (hall : ∀ aid follower, bridge.followers.find? aid = some follower →
      follower.receiver.isSome = running)
    {aid : Nat} {follower : Follower} (hfind : bridge.followers.find? aid = some follower)
    : bridge.isRunning = running := by
  cases running with
  | true => exact isRunning_iff.2 ⟨aid, follower, hfind, hall aid follower hfind⟩
  | false =>
    rw [← Bool.not_eq_true, isRunning_iff]
    intro h
    obtain ⟨other, another, hother, hreceiver⟩ := h
    rw [hall other another hother] at hreceiver
    contradiction

namespace Follower

def news? (hub : Hub) (follower : Follower) : Option State :=
  follower.receiver.bind (hub.news? · follower.switch.entityId)

theorem news?_of_receiver {hub : Hub} {follower : Follower} {receiver : Receiver}
    (h : follower.receiver = some receiver)
    : follower.news? hub = hub.news? receiver follower.switch.entityId := by
  unfold news?
  rw [h]
  rfl

theorem switch_receive (hub : Hub) (follower : Follower)
    : (follower.receive hub.bus).switch = follower.switch.reflect (follower.news? hub) := by
  unfold receive news?
  cases follower.receiver with
  | none => rfl
  | some receiver =>
    dsimp only [Option.bind_some]
    unfold Hub.news?
    cases hub.bus.receiveAs StateChange.ofJson receiver with
    | mk reception next =>
      cases reception with
      | event event =>
        dsimp only
        split
        . rfl
        . rfl
      | lagged count => rfl
      | idle => rfl

theorem receiver_receive (hub : Hub) (follower : Follower)
    : (follower.receive hub.bus).receiver
        =
      follower.receiver.map fun receiver =>
        (hub.bus.receiveAs StateChange.ofJson receiver).2 := by
  unfold receive
  cases hreceiver : follower.receiver with
  | none => exact hreceiver
  | some receiver =>
    dsimp only [Option.map]
    cases hub.bus.receiveAs StateChange.ofJson receiver with
    | mk reception next =>
      cases reception with
      | event event =>
        dsimp only
        split
        . rfl
        . rfl
      | lagged count => rfl
      | idle => rfl

theorem unread_receive (hub : Hub) (follower : Follower)
    : (follower.receive hub.bus).unread hub.bus ≤ follower.unread hub.bus - 1 := by
  unfold unread
  rw [receiver_receive]
  cases follower.receiver with
  | none => exact Nat.le_refl _
  | some receiver =>
    dsimp only [Option.map]
    rw [Bus.eventType_receiveAs]
    have hle := hub.bus.next_le_receiveAs StateChange.ofJson receiver
    by_cases hlt : receiver.next < (hub.bus.log receiver.eventType).size
    . have := Bus.next_lt_receiveAs StateChange.ofJson hlt
      omega
    . omega

structure Sound (hub : Hub) (follower : Follower) : Prop where
  isOn : ∃ on, follower.switch.accessory.IsOn on
  state : (hub.state? follower.switch.entityId.text).isSome = true
  queue : ∀ receiver, follower.receiver = some receiver →
    ∃ pending present, hub.Queue receiver follower.switch.entityId pending present

theorem sound_of_made {states : List State} {follower : Follower} (h : follower.Made states)
    {hub : Hub} (hstates : states.Perm hub.states.values)
    : follower.Sound hub := by
  constructor
  . exact ⟨false, h.isOn⟩
  . exact h.isSome_state? hstates
  . intro receiver hreceiver
    rw [h.receiver] at hreceiver
    contradiction

theorem Sound.evolve {hub later : Hub} {follower : Follower} (h : follower.Sound hub)
    {writes : List Write} (hevolves : hub.Evolves writes later)
    : follower.Sound later := by
  constructor
  . exact h.isOn
  . exact Hub.isSome_state?_evolves hevolves h.state
  . intro receiver hreceiver
    obtain ⟨pending, present, hqueue⟩ := h.queue receiver hreceiver
    exact ⟨_, _, hqueue.evolves hevolves⟩

theorem Sound.write {hub : Hub} {follower : Follower} (h : follower.Sound hub)
    {characteristic : String} {value : Json} {switch : Switch} {request : Option Request}
    (hwrite : follower.switch.write characteristic value = .ok (switch, request))
    : { follower with switch }.Sound hub := by
  obtain ⟨on, hon⟩ := h.isOn
  obtain ⟨hentity, hwritten⟩ := Switch.isOn_of_write hon hwrite
  constructor
  . exact hwritten
  . rw [hentity]
    exact h.state
  . rw [hentity]
    exact h.queue

theorem Sound.stop {hub : Hub} {follower : Follower} (h : follower.Sound hub)
    : { follower with receiver := none }.Sound hub := by
  constructor
  . exact h.isOn
  . exact h.state
  . intro receiver hreceiver
    contradiction

theorem Sound.follow {hub : Hub} {follower : Follower} (h : follower.Sound hub)
    : (follower.follow hub).Sound hub := by
  obtain ⟨on, hon⟩ := h.isOn
  obtain ⟨state, hstate⟩ := Option.isSome_iff_exists.1 h.state
  obtain ⟨hentity, hshown⟩ :=
    Switch.isOn_of_reflect hon (hub.state? follower.switch.entityId.text)
  have hswitch : (follower.follow hub).switch
      = follower.switch.reflect (hub.state? follower.switch.entityId.text) := by
    rfl
  rw [← hswitch] at hentity hshown
  constructor
  . exact hshown
  . rw [hentity]
    exact h.state
  . intro receiver hreceiver
    cases hreceiver
    rw [hentity]
    exact ⟨_, _, Hub.queue_subscribe hstate⟩

theorem Sound.receive {hub : Hub} {follower : Follower} (h : follower.Sound hub)
    : (follower.receive hub.bus).Sound hub := by
  obtain ⟨on, hon⟩ := h.isOn
  obtain ⟨hentity, hshown⟩ := Switch.isOn_of_reflect hon (follower.news? hub)
  rw [← switch_receive] at hentity hshown
  constructor
  . exact hshown
  . rw [hentity]
    exact h.state
  . intro next hnext
    rw [receiver_receive] at hnext
    obtain ⟨receiver, hreceiver, rfl⟩ := Option.map_eq_some_iff.1 hnext
    obtain ⟨pending, present, hqueue⟩ := h.queue receiver hreceiver
    obtain ⟨_, rest, _, hrest, _⟩ := hqueue.receive
    rw [hentity]
    exact ⟨rest, present, hrest⟩

end Follower

structure House where
  hub : Hub
  bridge : Bridge

namespace House

inductive Act where
  /-- A state is written, also by the handler of a service that a client's write calls. -/
  | set (w : Write)
  | write (aid : Nat) (characteristic : String) (value : Json)
  | receive (aid : Nat)
  | start
  | stop

def step (house : House) : Act → House
  | .set w => { house with hub := (house.hub.write w).2 }
  | .write aid characteristic value =>
    match house.bridge.beginWrite aid characteristic value with
    | .ok (bridge, _) => { house with bridge }
    | .error _ => house
  | .receive aid => { house with bridge := house.bridge.receive house.hub.bus aid }
  | .start => { house with bridge := house.bridge.start house.hub }
  | .stop => { house with bridge := house.bridge.stop }

def run (house : House) (acts : List Act) : House :=
  acts.foldl step house

theorem run_append (house : House) (acts more : List Act)
    : house.run (acts ++ more) = (house.run acts).run more := by
  apply List.foldl_append

theorem run_concat (house : House) (acts : List Act) (act : Act)
    : house.run (acts ++ [act]) = (house.run acts).step act := by
  rw [run_append]
  rfl

def Act.writes : Act → List Write
  | .set w => [w]
  | _ => []

theorem hub_step_write (house : House) (aid : Nat) (characteristic : String) (value : Json)
    : (house.step (.write aid characteristic value)).hub = house.hub := by
  dsimp only [step]
  split
  . rfl
  . rfl

theorem evolves_step (house : House) (act : Act)
    : house.hub.Evolves act.writes (house.step act).hub := by
  cases act with
  | set w => exact house.hub.evolves_write w
  | write aid characteristic value =>
    rw [hub_step_write]
    exact Hub.Evolves.refl
  | _ => exact Hub.Evolves.refl

theorem evolves_run (house : House) (acts : List Act)
    : house.hub.Evolves (acts.flatMap Act.writes) (house.run acts).hub := by
  induction acts generalizing house with
  | nil => exact Hub.Evolves.refl
  | cons act acts ih => exact (house.evolves_step act).trans (ih (house.step act))

theorem bridge_run_set (house : House) (writes : List Write)
    : (house.run (writes.map .set)).bridge = house.bridge := by
  induction writes generalizing house with
  | nil => rfl
  | cons w writes ih => exact ih (house.step (.set w))

theorem evolves_run_set (house : House) (writes : List Write)
    : house.hub.Evolves writes (house.run (writes.map .set)).hub := by
  have hevolves := house.evolves_run (writes.map .set)
  rw [List.flatMap_map] at hevolves
  simpa [Act.writes] using hevolves

def after (house : House) (act : Act) (aid : Nat) (follower : Follower) : Follower :=
  match act with
  | .set _ => follower
  | .write other characteristic value =>
    if other = aid then
      match follower.switch.write characteristic value with
      | .ok (switch, _) => { follower with switch }
      | .error _ => follower
    else follower
  | .receive other => if other = aid then follower.receive house.hub.bus else follower
  | .start => if house.bridge.isRunning then follower else follower.follow house.hub
  | .stop => { follower with receiver := none }

theorem find?_step_write (house : House) (other : Nat) (characteristic : String) (value : Json)
    (aid : Nat)
    : (house.step (.write other characteristic value)).bridge.followers.find? aid
        =
      (house.bridge.followers.find? aid).map
        (house.after (.write other characteristic value) aid) := by
  dsimp only [step, beginWrite]
  by_cases hother : other = aid
  . subst hother
    cases hfind : house.bridge.followers.find? other with
    | none => exact hfind
    | some follower =>
      dsimp only [Option.map, after]
      rw [if_pos rfl]
      cases follower.switch.write characteristic value with
      | error e => exact hfind
      | ok result => simp [Except.map, Table.find?_insert]
  . have hsame : house.after (.write other characteristic value) aid = id := by
      funext follower
      dsimp only [after]
      rw [if_neg hother]
      rfl
    rw [hsame, Option.map_id]
    cases house.bridge.followers.find? other with
    | none => rfl
    | some follower =>
      dsimp only
      cases follower.switch.write characteristic value with
      | error e => rfl
      | ok result => simp [Except.map, Table.find?_insert, hother]

theorem find?_step (house : House) (act : Act) (aid : Nat)
    : (house.step act).bridge.followers.find? aid
        =
      (house.bridge.followers.find? aid).map (house.after act aid) := by
  cases act with
  | set w =>
    have hafter : house.after (.set w) aid = id := by rfl
    rw [hafter, Option.map_id]
    rfl
  | write other characteristic value => apply find?_step_write
  | receive other =>
    have hafter : house.after (.receive other) aid
        = if other = aid then Follower.receive house.hub.bus else id := by
      funext follower
      dsimp only [after]
      split
      . rfl
      . rfl
    dsimp only [step, Bridge.receive]
    rw [Table.find?_modify, hafter]
    split
    . rfl
    . rw [Option.map_id]
      rfl
  | start =>
    have hafter : house.after .start aid
        = if house.bridge.isRunning then id else Follower.follow house.hub := by
      funext follower
      dsimp only [after]
      split
      . rfl
      . rfl
    dsimp only [step, Bridge.start]
    rw [hafter]
    split
    . rw [Option.map_id]
      rfl
    . apply find?_mapFollowers
  | stop => apply find?_mapFollowers

theorem find?_step_of_find? {house : House} {aid : Nat} {follower : Follower}
    (hfind : house.bridge.followers.find? aid = some follower) (act : Act)
    : (house.step act).bridge.followers.find? aid = some (house.after act aid follower) := by
  rw [find?_step, hfind]
  rfl

theorem followers_run {p : Nat → Follower → Prop}
    (hafter : ∀ (house : House) act aid follower, p aid follower →
      p aid (house.after act aid follower))
    {house : House}
    (h : ∀ aid follower, house.bridge.followers.find? aid = some follower → p aid follower)
    (acts : List Act)
    : ∀ aid follower, (house.run acts).bridge.followers.find? aid = some follower →
        p aid follower := by
  induction acts generalizing house with
  | nil => exact h
  | cons act acts ih =>
    apply ih
    intro aid follower hfind
    rw [find?_step] at hfind
    obtain ⟨old, hold, rfl⟩ := Option.map_eq_some_iff.1 hfind
    exact hafter house act aid old (h aid old hold)

theorem find?_step_receive {house : House} {aid : Nat} {follower : Follower}
    (hfind : house.bridge.followers.find? aid = some follower)
    : (house.step (.receive aid)).bridge.followers.find? aid
        =
      some (follower.receive house.hub.bus) := by
  rw [find?_step_of_find? hfind]
  dsimp only [after]
  rw [if_pos rfl]

theorem find?_run_receive {house : House} {aid : Nat} {follower : Follower}
    (hfind : house.bridge.followers.find? aid = some follower) (count : Nat)
    : ∃ last, (house.run (List.replicate count (.receive aid))).bridge.followers.find? aid
          = some last
        ∧ (house.run (List.replicate count (.receive aid))).hub = house.hub
        ∧ last.unread house.hub.bus ≤ follower.unread house.hub.bus - count := by
  induction count generalizing house follower with
  | zero => exact ⟨follower, hfind, rfl, Nat.le_refl _⟩
  | succ count ih =>
    obtain ⟨last, hlast, hhub, hunread⟩ := ih (find?_step_receive hfind)
    refine ⟨last, hlast, hhub, ?_⟩
    have hreceive := Follower.unread_receive house.hub follower
    dsimp only [step] at hunread
    omega

theorem bridge_of_write {σ : Type} {house : House}
    {call : Request → StateM σ (Except ServiceError Unit)} {aid : Nat} {characteristic : String}
    {value : Json} {s s' : σ} {result : Except Error Unit} {written : Bridge}
    (h : house.bridge.write call aid characteristic value s = ((result, written), s'))
    : (house.step (.write aid characteristic value)).bridge = written := by
  unfold Bridge.write at h
  dsimp only [step]
  cases hwrite : house.bridge.beginWrite aid characteristic value with
  | error e =>
    rw [hwrite] at h
    cases h
    rfl
  | ok begun =>
    obtain ⟨bridge, request⟩ := begun
    rw [hwrite] at h
    cases request with
    | none =>
      cases h
      rfl
    | some request =>
      cases h
      rfl

/-! ### What is always so -/

theorem isSome_receiver_after (house : House) (act : Act) (aid : Nat) (follower : Follower)
    : (house.after act aid follower).receiver.isSome
        =
      match act with
      | .start => if house.bridge.isRunning then follower.receiver.isSome else true
      | .stop => false
      | _ => follower.receiver.isSome := by
  cases act with
  | set w => rfl
  | write other characteristic value =>
    dsimp only [after]
    split
    . split
      . rfl
      . rfl
    . rfl
  | receive other =>
    dsimp only [after]
    split
    . rw [Follower.receiver_receive, Option.isSome_map]
    . rfl
  | start =>
    dsimp only [after]
    split
    . rfl
    . rfl
  | stop => rfl

structure Sound (house : House) : Prop where
  follower : ∀ aid follower, house.bridge.followers.find? aid = some follower →
    follower.Sound house.hub
  together : ∃ running, ∀ aid follower, house.bridge.followers.find? aid = some follower →
    follower.receiver.isSome = running

theorem Sound.isSome_receiver {house : House} (h : house.Sound) {aid : Nat} {follower : Follower}
    (hfind : house.bridge.followers.find? aid = some follower)
    : follower.receiver.isSome = house.bridge.isRunning := by
  obtain ⟨running, hall⟩ := h.together
  rw [isRunning_eq_of_all hall hfind]
  exact hall aid follower hfind

theorem Sound.after {house : House} {aid : Nat} {follower : Follower}
    (h : follower.Sound house.hub) (act : Act)
    : (house.after act aid follower).Sound house.hub := by
  unfold House.after
  split
  . exact h
  . split
    . split
      . next hwrite => exact h.write hwrite
      . exact h
    . exact h
  . split
    . exact h.receive
    . exact h
  . split
    . exact h
    . exact h.follow
  . exact h.stop

theorem switch_after (house : House) (act : Act) (aid : Nat) (follower : Follower)
    : (house.after act aid follower).switch = follower.switch
        ∨ (∃ characteristic value request, follower.switch.write characteristic value
          = .ok ((house.after act aid follower).switch, request))
        ∨ ∃ news, (house.after act aid follower).switch = follower.switch.reflect news := by
  unfold after
  split
  . exact .inl rfl
  . split
    . split
      . next hwrite => exact .inr (.inl ⟨_, _, _, hwrite⟩)
      . exact .inl rfl
    . exact .inl rfl
  . split
    . exact .inr (.inr ⟨_, follower.switch_receive house.hub⟩)
    . exact .inl rfl
  . split
    . exact .inl rfl
    . exact .inr (.inr ⟨_, rfl⟩)
  . exact .inl rfl

theorem Sound.entityId_after {house : House} {aid : Nat} {follower : Follower}
    (h : follower.Sound house.hub) (act : Act)
    : (house.after act aid follower).switch.entityId = follower.switch.entityId := by
  obtain ⟨on, hon⟩ := h.isOn
  rcases house.switch_after act aid follower with hsame | ⟨_, _, _, hwrite⟩ | ⟨news, hreflect⟩
  . rw [hsame]
  . exact (Switch.isOn_of_write hon hwrite).1
  . rw [hreflect]
    exact (Switch.isOn_of_reflect hon news).1

theorem sound_step {house : House} (h : house.Sound) (act : Act) : (house.step act).Sound := by
  constructor
  . intro aid follower hfind
    rw [find?_step] at hfind
    obtain ⟨old, hold, rfl⟩ := Option.map_eq_some_iff.1 hfind
    exact (Sound.after (h.follower aid old hold) act).evolve (house.evolves_step act)
  . obtain ⟨running, hall⟩ := h.together
    refine ⟨match act with
      | .start => if house.bridge.isRunning then running else true
      | .stop => false
      | _ => running, ?_⟩
    intro aid follower hfind
    rw [find?_step] at hfind
    obtain ⟨old, hold, rfl⟩ := Option.map_eq_some_iff.1 hfind
    rw [isSome_receiver_after]
    rw [hall aid old hold]

theorem sound_run {house : House} (h : house.Sound) (acts : List Act) : (house.run acts).Sound := by
  induction acts generalizing house with
  | nil => exact h
  | cons act acts ih => exact ih (sound_step h act)

theorem entityId_run {house : House} (h : house.Sound) {acts : List Act} {aid : Nat}
    {follower last : Follower} (hfind : house.bridge.followers.find? aid = some follower)
    (hlast : (house.run acts).bridge.followers.find? aid = some last)
    : last.switch.entityId = follower.switch.entityId := by
  induction acts generalizing house follower with
  | nil =>
    rw [show house.run [] = house from rfl, hfind] at hlast
    cases hlast
    rfl
  | cons act acts ih =>
    rw [ih (sound_step h act) (find?_step_of_find? hfind act) hlast]
    exact Sound.entityId_after (h.follower aid follower hfind) act

theorem sound_of_build {config : Config} {states : List State} {bridge : Bridge} {hub : Hub}
    (hstates : states.Perm hub.states.values)
    (hbuild : build builtinTypes config states = .ok bridge)
    : Sound { hub, bridge } := by
  constructor
  . intro aid follower hfind
    exact Follower.sound_of_made (made_of_build hbuild hfind) hstates
  . refine ⟨false, ?_⟩
    intro aid follower hfind
    rw [(made_of_build hbuild hfind).receiver]
    rfl

end House

end HomeHub.Bridge
