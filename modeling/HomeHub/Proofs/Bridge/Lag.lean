import HomeHub.Proofs.Bridge.Start
import Mathlib.Data.List.Induction

/-!
What becomes of changes that nobody commands. A switch shows them all, unless its receptions come so
late that they are lost: all entities share one log, so enough changes of others are enough for
that. What is lost is not looked up, and the switch stays stale until its entity is written again.
-/

namespace HomeHub.Bridge

theorem Switch.shows_evolves_iff {switch : Switch} {hub later : Hub} {writes : List Write}
    (hevolves : hub.Evolves writes later) (h : ∀ w ∈ writes, w.entityId ≠ switch.entityId)
    : switch.Shows later ↔ switch.Shows hub := by
  unfold Shows
  rw [Hub.state?_evolves_of_ne hevolves h]

namespace Follower

def Outrun (hub : Hub) (follower : Follower) : Prop :=
  ∃ receiver, follower.receiver = some receiver
    ∧ hub.pending receiver follower.switch.entityId ≠ []
    ∧ hub.pending (hub.bus.skipLost receiver) follower.switch.entityId = []

structure Stale (hub : Hub) (follower : Follower) : Prop where
  pending : ∃ receiver present, follower.receiver = some receiver
    ∧ hub.Queue receiver follower.switch.entityId [] present
  not_shows : ¬ follower.switch.Shows hub

variable {hub : Hub} {follower : Follower}

theorem receive_of_pending_nil {receiver : Receiver} {present : Bool}
    (hreceiver : follower.receiver = some receiver)
    (hqueue : hub.Queue receiver follower.switch.entityId [] present)
    : (follower.receive hub.bus).switch = follower.switch
        ∧ ∃ next, (follower.receive hub.bus).receiver = some next
          ∧ hub.Queue next follower.switch.entityId [] present := by
  obtain ⟨taken, rest, hnone, hrest, htaken⟩ := hqueue.receive
  obtain ⟨rfl, rfl⟩ := List.append_eq_nil_iff.1 hnone.symm
  rw [switch_receive, receiver_receive, hreceiver]
  refine ⟨?_, _, rfl, hrest⟩
  have hnews : follower.news? hub = none := by
    rw [news?_of_receiver hreceiver]
    by_cases hlost : 0 < hub.bus.lost receiver
    . exact Hub.news?_of_lost hlost _
    . have htold := htaken (by omega)
      simpa using htold.symm
  rw [hnews]
  rfl

theorem Outrun.receive (h : follower.Outrun hub) (hsound : follower.Sound hub)
    : (follower.receive hub.bus).switch = follower.switch
        ∧ ∃ next present, (follower.receive hub.bus).receiver = some next
          ∧ hub.Queue next follower.switch.entityId [] present := by
  obtain ⟨receiver, hreceiver, hpending, hskipped⟩ := h
  obtain ⟨_, present, hqueue⟩ := hsound.queue receiver hreceiver
  have hlost : 0 < hub.bus.lost receiver := by
    apply Nat.pos_of_ne_zero
    intro hnone
    rw [Bus.skipLost_of_lost_eq_zero hnone] at hskipped
    contradiction
  obtain ⟨taken, rest, _, hrest, _⟩ := hqueue.receive
  rw [Bus.receiveAs_of_lost _ hlost] at hrest
  obtain rfl := hrest.pending_eq.symm.trans hskipped
  rw [switch_receive, receiver_receive, hreceiver]
  dsimp only [Option.map]
  rw [Bus.receiveAs_of_lost _ hlost]
  refine ⟨?_, _, present, rfl, hrest⟩
  rw [news?_of_receiver hreceiver]
  rw [Hub.news?_of_lost hlost]
  rfl

theorem shows_receive {receiver : Receiver} (hsound : follower.Sound hub)
    (hawaiting : follower.switch.awaiting = false)
    (hreceiver : follower.receiver = some receiver)
    (hpending : hub.pending receiver follower.switch.entityId ≠ [])
    (houtrun : ¬ follower.Outrun hub) {next : Receiver}
    (hnext : (follower.receive hub.bus).receiver = some next)
    (hnone : hub.pending next follower.switch.entityId = [])
    : (follower.receive hub.bus).switch.Shows hub := by
  obtain ⟨on, hon⟩ := hsound.isOn
  obtain ⟨pending, present, hqueue⟩ := hsound.queue receiver hreceiver
  obtain ⟨taken, rest, hsplit, hrest, htaken⟩ := hqueue.receive
  rw [receiver_receive, hreceiver] at hnext
  cases hnext
  obtain rfl := hrest.pending_eq.symm.trans hnone
  rw [List.append_nil] at hsplit
  rw [hqueue.pending_eq] at hpending
  have hlost : hub.bus.lost receiver = 0 := by
    apply Nat.eq_zero_of_not_pos
    intro hlost
    apply houtrun
    dsimp only at hnone
    rw [Bus.receiveAs_of_lost _ hlost] at hnone
    refine ⟨receiver, hreceiver, ?_, hnone⟩
    rw [hqueue.pending_eq]
    exact hpending
  cases hnews : hub.news? receiver follower.switch.entityId with
  | none =>
    rw [htaken hlost, hnews] at hsplit
    contradiction
  | some state =>
    rw [htaken hlost, hnews] at hsplit
    subst hsplit
    obtain ⟨stored, hstored, hpresent⟩ := hqueue.state
    obtain ⟨hentity, _, hshown⟩ := Switch.reflect_some hon state
    rw [hawaiting] at hshown
    rw [switch_receive]
    rw [news?_of_receiver hreceiver]
    rw [hnews]
    rw [← hentity] at hstored
    rw [Switch.shows_iff hshown hstored]
    rw [hpresent]
    exact hqueue.last _ rfl

theorem outrun_of_burst {later : Hub} (hsound : follower.Sound hub)
    (hreceiver : follower.receiver.isSome = true) {w : Write}
    (hw : w.entityId = follower.switch.entityId) {writes : List Write}
    (hevolves : (hub.write w).2.Evolves writes later)
    (hothers : ∀ other ∈ writes, other.entityId ≠ follower.switch.entityId)
    (hmany : Bus.capacity ≤ writes.length)
    : follower.Outrun later := by
  obtain ⟨receiver, hreceiver⟩ := Option.isSome_iff_exists.1 hreceiver
  obtain ⟨pending, present, hqueue⟩ := hsound.queue receiver hreceiver
  have hwrite := hub.evolves_write w
  refine ⟨receiver, hreceiver, ?_, ?_⟩
  . rw [(hqueue.evolves (hwrite.trans hevolves)).pending_eq]
    rw [Hub.values_append]
    simp [Write.values, hw]
  -- Behind the change nothing tells of the entity, and the change is the first that is lost.
  . let behind := (hub.write w).2.bus.subscribe StateChange.eventType
    have hbehind : later.pending behind follower.switch.entityId = [] := by
      obtain ⟨state, hstate⟩ := Option.isSome_iff_exists.1
        (Hub.isSome_state?_evolves hwrite hsound.state)
      rw [((Hub.queue_subscribe hstate).evolves hevolves).pending_eq]
      rw [Hub.values_eq_nil hothers]
      rfl
    have hskipped : later.bus.skipLost receiver
        = { behind with next := behind.next + (writes.length - Bus.capacity) } := by
      have hnext := Hub.size_log_evolves hwrite
      have hlast := Hub.size_log_evolves hevolves
      have hwithin := hqueue.within
      unfold Bus.Within at hwithin
      rw [List.length_singleton] at hnext
      unfold Bus.skipLost Bus.lost behind Bus.subscribe
      rw [hqueue.eventType] at hwithin ⊢
      dsimp only
      rw [Receiver.mk.injEq]
      exact ⟨rfl, by omega⟩
    obtain ⟨passed, hpassed⟩ := later.exists_pending_eq_append behind
      follower.switch.entityId (writes.length - Bus.capacity)
    rw [hskipped]
    rw [hbehind] at hpassed
    exact (List.append_eq_nil_iff.1 hpassed.symm).2

structure Attends (hub : Hub) (missed : Prop) (follower : Follower) : Prop where
  awaiting : follower.switch.awaiting = false
  shows : ∀ receiver, follower.receiver = some receiver →
    hub.pending receiver follower.switch.entityId = [] → follower.switch.Shows hub ∨ missed

variable {missed missed' : Prop}

theorem Attends.imp (h : follower.Attends hub missed) (hmissed : missed → missed')
    : follower.Attends hub missed' := by
  constructor
  . exact h.awaiting
  . intro receiver hreceiver hnone
    exact (h.shows receiver hreceiver hnone).imp_right hmissed

theorem Attends.write (h : follower.Attends hub missed) (hsound : follower.Sound hub) (w : Write)
    (hmissed : w.entityId ≠ follower.switch.entityId → missed → missed')
    : follower.Attends (hub.write w).2 missed' := by
  constructor
  . exact h.awaiting
  . intro receiver hreceiver hnone
    obtain ⟨pending, present, hqueue⟩ := hsound.queue receiver hreceiver
    rw [Hub.pending_write hqueue.within hqueue.eventType] at hnone
    obtain ⟨hpending, hvalues⟩ := List.append_eq_nil_iff.1 hnone
    -- A write to the entity is still to be told of.
    have hother : w.entityId ≠ follower.switch.entityId := by
      intro hsame
      simp [Write.values, hsame] at hvalues
    cases h.shows receiver hreceiver hpending with
    | inl hshows =>
      left
      rw [Switch.shows_evolves_iff (hub.evolves_write w) (by simpa using hother)]
      exact hshows
    | inr h => exact .inr (hmissed hother h)

theorem Attends.receive (h : follower.Attends hub missed) (hsound : follower.Sound hub)
    (hkept : missed → missed')
    (houtrun : follower.Outrun hub → ¬ follower.switch.Shows hub → missed')
    : (follower.receive hub.bus).Attends hub missed' := by
  obtain ⟨on, hon⟩ := hsound.isOn
  constructor
  . rw [switch_receive]
    cases follower.news? hub with
    | none => exact h.awaiting
    | some state => exact (Switch.reflect_some hon state).2.1
  . intro next hnext hnone
    have hreceived := hnext
    rw [receiver_receive] at hreceived
    obtain ⟨receiver, hreceiver, _⟩ := Option.map_eq_some_iff.1 hreceived
    obtain ⟨pending, present, hqueue⟩ := hsound.queue receiver hreceiver
    by_cases hpending : pending = []
    . subst hpending
      rw [(receive_of_pending_nil hreceiver hqueue).1]
      exact (h.shows receiver hreceiver hqueue.pending_eq).imp_right hkept
    . by_cases hlate : follower.Outrun hub
      . rw [(hlate.receive hsound).1]
        by_cases hshows : follower.switch.Shows hub
        . exact .inl hshows
        . exact .inr (houtrun hlate hshows)
      . left
        rw [← hqueue.pending_eq] at hpending
        have hentity : (follower.receive hub.bus).switch.entityId = follower.switch.entityId := by
          rw [switch_receive]
          exact (Switch.isOn_of_reflect hon _).1
        rw [hentity] at hnone
        exact shows_receive hsound h.awaiting hreceiver hpending hlate hnext hnone

theorem Attends.follow (h : follower.Attends hub missed) (hsound : follower.Sound hub)
    : (follower.follow hub).Attends hub missed' := by
  constructor
  . exact awaiting_follow hsound
  . intro receiver _ _
    left
    rw [shows_follow_iff hsound]
    rw [h.awaiting]
    intro hfalse
    contradiction

end Follower

namespace House

def Act.IsQuiet : Act → Prop
  | .write .. => False
  | _ => True

def Act.Passes (entityId : EntityId) : Act → Prop
  | .set w => w.entityId ≠ entityId
  | .write .. => False
  | .stop => False
  | _ => True

/--
At some reception all changes of the entity are lost while the switch shows something else, and
nothing happens afterwards that would bring it in step.
-/
def Missed (house : House) (aid : Nat) (acts : List Act) : Prop :=
  ∃ before after follower, acts = before ++ .receive aid :: after
    ∧ (house.run before).bridge.followers.find? aid = some follower
    ∧ follower.Outrun (house.run before).hub
    ∧ ¬ follower.switch.Shows (house.run before).hub
    ∧ ∀ act ∈ after, act.Passes follower.switch.entityId

variable {house : House} {aid : Nat}

/-! ### What is not missed is shown -/

theorem Missed.concat {acts : List Act} (h : house.Missed aid acts) (hsound : house.Sound)
    {follower : Follower}
    (hfind : (house.run acts).bridge.followers.find? aid = some follower) {act : Act}
    (hpasses : act.Passes follower.switch.entityId)
    : house.Missed aid (acts ++ [act]) := by
  obtain ⟨before, after, missed, rfl, hmissed, houtrun, hshows, hafter⟩ := h
  refine ⟨before, after ++ [act], missed, by simp, hmissed, houtrun, hshows, ?_⟩
  rw [run_append] at hfind
  rw [entityId_run (sound_run hsound before) hmissed hfind] at hpasses
  intro other hother
  cases List.mem_append.1 hother with
  | inl hold => exact hafter other hold
  | inr hnew =>
    rw [List.mem_singleton] at hnew
    rw [hnew]
    exact hpasses

theorem attends_step {acts : List Act} (hsound : house.Sound) {act : Act} (hquiet : act.IsQuiet)
    {follower : Follower}
    (hfind : (house.run acts).bridge.followers.find? aid = some follower)
    (h : follower.Attends (house.run acts).hub (house.Missed aid acts))
    : ((house.run acts).after act aid follower).Attends (house.run (acts ++ [act])).hub
        (house.Missed aid (acts ++ [act])) := by
  have hfollower := (sound_run hsound acts).follower aid follower hfind
  rw [run_concat]
  cases act with
  | set w =>
    apply h.write hfollower w
    intro hother hmissed
    exact hmissed.concat hsound hfind hother
  | write => contradiction
  | receive other =>
    have hkept : house.Missed aid acts → house.Missed aid (acts ++ [.receive other]) := by
      intro hmissed
      exact hmissed.concat hsound hfind trivial
    dsimp only [after, step]
    split
    . next hsame =>
      subst hsame
      apply h.receive hfollower hkept
      intro houtrun hshows
      exact ⟨acts, [], follower, rfl, hfind, houtrun, hshows, by simp⟩
    . exact h.imp hkept
  | start =>
    dsimp only [after, step]
    split
    . apply h.imp
      intro hmissed
      exact hmissed.concat hsound hfind trivial
    . exact h.follow hfollower
  | stop =>
    constructor
    . exact h.awaiting
    . intro receiver hreceiver
      contradiction

theorem attends_run {acts : List Act} (hsound : house.Sound)
    (hidle : ∀ follower, house.bridge.followers.find? aid = some follower →
      follower.switch.awaiting = false ∧ follower.receiver = none)
    (hquiet : ∀ act ∈ acts, act.IsQuiet) {follower : Follower}
    (hfind : (house.run acts).bridge.followers.find? aid = some follower)
    : follower.Attends (house.run acts).hub (house.Missed aid acts) := by
  induction acts using List.reverseRecOn generalizing follower with
  | nil =>
    obtain ⟨hawaiting, hnone⟩ := hidle follower hfind
    constructor
    . exact hawaiting
    . intro receiver hreceiver
      rw [hnone] at hreceiver
      contradiction
  | append_singleton acts act ih =>
    have hacts : ∀ other ∈ acts, other.IsQuiet := by
      intro other hother
      exact hquiet other (List.mem_append_left _ hother)
    rw [run_concat, find?_step] at hfind
    obtain ⟨old, hold, rfl⟩ := Option.map_eq_some_iff.1 hfind
    exact attends_step hsound (hquiet act (by simp)) hold (ih hacts hold)

/-! ### What is missed stays missed -/

theorem stale_step (hsound : house.Sound) {act : Act} {follower : Follower}
    (hfind : house.bridge.followers.find? aid = some follower) (h : follower.Stale house.hub)
    (hpasses : act.Passes follower.switch.entityId)
    : (house.after act aid follower).Stale (house.step act).hub := by
  obtain ⟨receiver, present, hreceiver, hqueue⟩ := h.pending
  cases act with
  | set w =>
    have hother : w.entityId ≠ follower.switch.entityId := hpasses
    have hothers : ∀ v ∈ [w], v.entityId ≠ follower.switch.entityId := by simpa using hother
    have hevolves := house.hub.evolves_write w
    constructor
    . have hlater := hqueue.evolves hevolves
      rw [Hub.values_eq_nil hothers] at hlater
      exact ⟨receiver, present, hreceiver, hlater⟩
    . intro hshows
      exact h.not_shows ((Switch.shows_evolves_iff hevolves hothers).1 hshows)
  | write => contradiction
  | receive other =>
    dsimp only [after, step]
    split
    . obtain ⟨hsame, next, hnext, hrest⟩ := Follower.receive_of_pending_nil hreceiver hqueue
      constructor
      . rw [hsame]
        exact ⟨next, present, hnext, hrest⟩
      . rw [hsame]
        exact h.not_shows
    . exact h
  -- The bridge runs already.
  | start =>
    have hrunning : house.bridge.isRunning = true := by
      rw [← hsound.isSome_receiver hfind, hreceiver]
      rfl
    dsimp only [after, step]
    rw [if_pos hrunning]
    exact h
  | stop => contradiction

theorem stale_run {acts : List Act} (hsound : house.Sound) {follower : Follower}
    (hfind : house.bridge.followers.find? aid = some follower) (h : follower.Stale house.hub)
    (hpasses : ∀ act ∈ acts, act.Passes follower.switch.entityId)
    : ∃ last, (house.run acts).bridge.followers.find? aid = some last
        ∧ last.Stale (house.run acts).hub := by
  induction acts generalizing house follower with
  | nil => exact ⟨follower, hfind, h⟩
  | cons act acts ih =>
    apply ih (sound_step hsound act) (find?_step_of_find? hfind act)
    . exact stale_step hsound hfind h (hpasses act (by simp))
    . rw [Sound.entityId_after (hsound.follower aid follower hfind)]
      intro other hother
      exact hpasses other (List.mem_cons_of_mem _ hother)

theorem Missed.stale {acts : List Act} (h : house.Missed aid acts) (hsound : house.Sound)
    {follower : Follower}
    (hfind : (house.run acts).bridge.followers.find? aid = some follower)
    : follower.Stale (house.run acts).hub := by
  obtain ⟨before, after, missed, rfl, hmissed, houtrun, hshows, hafter⟩ := h
  have hbefore := sound_run hsound before
  obtain ⟨hsame, next, present, hnext, hqueue⟩ :=
    houtrun.receive (hbefore.follower aid missed hmissed)
  have hstale : (missed.receive (house.run before).hub.bus).Stale (house.run before).hub := by
    constructor
    . rw [hsame]
      exact ⟨next, present, hnext, hqueue⟩
    . rw [hsame]
      exact hshows
  rw [← hsame] at hafter
  obtain ⟨last, hlast, hstale⟩ :=
    stale_run (sound_step hbefore (.receive aid)) (find?_step_receive hmissed) hstale hafter
  rw [run_append] at hfind ⊢
  obtain rfl := Option.some.inj (hlast.symm.trans hfind)
  exact hstale

/-! ### How a change is missed, and how not -/

def KeepsUp (house : House) (aid : Nat) : List Act → Prop
  | [] => True
  | .receive other :: acts =>
    (other = aid → ∀ follower ∈ house.bridge.followers.find? aid,
      ∀ receiver ∈ follower.receiver, house.hub.bus.lost receiver = 0)
      ∧ (house.step (.receive other)).KeepsUp aid acts
  | act :: acts => (house.step act).KeepsUp aid acts

theorem KeepsUp.run {before acts : List Act} (h : house.KeepsUp aid (before ++ acts))
    : (house.run before).KeepsUp aid acts := by
  induction before generalizing house with
  | nil => exact h
  | cons act before ih =>
    cases act with
    | receive other => exact ih h.2
    | _ => exact ih h

theorem not_missed_of_keepsUp {acts : List Act} (h : house.KeepsUp aid acts)
    : ¬ house.Missed aid acts := by
  intro hmissed
  obtain ⟨before, after, follower, rfl, hfind, houtrun, _⟩ := hmissed
  obtain ⟨receiver, hreceiver, hpending, hskipped⟩ := houtrun
  have hlost := h.run.1 rfl follower hfind receiver hreceiver
  rw [Bus.skipLost_of_lost_eq_zero hlost] at hskipped
  contradiction

theorem missed_of_burst (hsound : house.Sound) {acts after : List Act} {follower : Follower}
    (hfind : (house.run acts).bridge.followers.find? aid = some follower)
    (hreceiver : follower.receiver.isSome = true) {w : Write}
    (hw : w.entityId = follower.switch.entityId)
    (hshows : ¬ follower.switch.Shows ((house.run acts).hub.write w).2) {writes : List Write}
    (hothers : ∀ other ∈ writes, other.entityId ≠ follower.switch.entityId)
    (hmany : Bus.capacity ≤ writes.length)
    (hafter : ∀ act ∈ after, act.Passes follower.switch.entityId)
    : house.Missed aid (acts ++ (w :: writes).map .set ++ .receive aid :: after) := by
  have hevolves := ((house.run acts).step (.set w)).evolves_run_set writes
  refine ⟨acts ++ (w :: writes).map .set, after, follower, rfl, ?_, ?_, ?_, hafter⟩
  . rw [run_append, bridge_run_set]
    exact hfind
  . rw [run_append]
    exact Follower.outrun_of_burst ((sound_run hsound acts).follower aid follower hfind)
      hreceiver hw hevolves hothers hmany
  . rw [run_append]
    intro hlater
    exact hshows ((Switch.shows_evolves_iff hevolves hothers).1 hlater)

theorem shows_iff_not_missed {config : Config} {states : List State} {bridge : Bridge} {hub : Hub}
    (hstates : states.Perm hub.states.values)
    (hbuild : build builtinTypes config states = .ok bridge) {acts : List Act}
    (hquiet : ∀ act ∈ acts, act.IsQuiet) {house : House}
    (hhouse : run { hub, bridge } acts = house) (hrunning : house.bridge.isRunning = true)
    {aid : Nat} {follower : Follower}
    (hfind : house.bridge.followers.find? aid = some follower)
    (hdrained : follower.unread house.hub.bus = 0)
    : follower.switch.Shows house.hub ↔ ¬ Missed { hub, bridge } aid acts := by
  subst hhouse
  have hbuilt := sound_of_build hstates hbuild
  constructor
  . intro hshows hmissed
    exact (hmissed.stale hbuilt hfind).not_shows hshows
  . intro hmissed
    have hidle : ∀ made, bridge.followers.find? aid = some made →
        made.switch.awaiting = false ∧ made.receiver = none := by
      intro made hmade
      have hspec := made_of_build hbuild hmade
      exact ⟨hspec.awaiting, hspec.receiver⟩
    have hattends := attends_run hbuilt hidle hquiet hfind
    have hreceiver := (sound_run hbuilt acts).isSome_receiver hfind
    rw [hrunning] at hreceiver
    obtain ⟨receiver, hreceiver⟩ := Option.isSome_iff_exists.1 hreceiver
    have hpending := Follower.pending_of_drained hdrained hreceiver follower.switch.entityId
    exact (hattends.shows receiver hreceiver hpending).resolve_right hmissed

def changeThenRead : List Act :=
  [.start, .set (Mirror.kitchenWrite State.on "second"), .receive 2]

theorem shows_after_changeThenRead
    : let first : House := { hub := Mirror.kitchenHub, bridge := Mirror.kitchenBridge }
      build builtinTypes {} Mirror.kitchenHub.states.values = .ok Mirror.kitchenBridge
        ∧ (∀ act ∈ changeThenRead, act.IsQuiet)
        ∧ (first.run changeThenRead).bridge.isRunning = true
        ∧ ¬ first.Missed 2 changeThenRead
        ∧ ∃ follower, (first.run changeThenRead).bridge.followers.find? 2 = some follower
          ∧ follower.unread (first.run changeThenRead).hub.bus = 0
          ∧ follower.switch.Shows (first.run changeThenRead).hub := by
  intro first
  have hquiet : ∀ act ∈ changeThenRead, act.IsQuiet := by simp [changeThenRead, Act.IsQuiet]
  have hrunning : (first.run changeThenRead).bridge.isRunning = true := by decide +kernel
  have hkeeps : first.KeepsUp 2 changeThenRead := by
    refine ⟨?_, trivial⟩
    intro
    decide +kernel
  have hmissed := not_missed_of_keepsUp hkeeps
  have hfollower : ∃ follower, (first.run changeThenRead).bridge.followers.find? 2 = some follower
      ∧ follower.unread (first.run changeThenRead).hub.bus = 0 := by
    exact ⟨_, rfl, by decide +kernel⟩
  obtain ⟨follower, hfind, hdrained⟩ := hfollower
  have hshows := (shows_iff_not_missed (List.Perm.refl _) Mirror.build_kitchenHub hquiet rfl
    hrunning hfind hdrained).2 hmissed
  exact ⟨Mirror.build_kitchenHub, hquiet, hrunning, hmissed, follower, hfind, hdrained, hshows⟩

def writesOverCapacity : List Write :=
  Mirror.kitchenWrite State.on "second"
    :: List.replicate Bus.capacity ⟨.desk, State.on, [], { id := "third" }⟩

def actsOverCapacity : List Act :=
  [.start] ++ writesOverCapacity.map .set ++ List.replicate (Bus.capacity + 1) (.receive 2)

theorem isQuiet_actsOverCapacity : ∀ act ∈ actsOverCapacity, act.IsQuiet := by
  intro act hact
  unfold actsOverCapacity at hact
  rw [List.mem_append, List.mem_append] at hact
  rcases hact with (hstart | hset) | hreceive
  . rw [List.mem_singleton.1 hstart]
    trivial
  . obtain ⟨w, _, rfl⟩ := List.mem_map.1 hset
    trivial
  . rw [List.eq_of_mem_replicate hreceive]
    trivial

theorem not_shows_after_lag
    : let first : House := { hub := Mirror.kitchenHub, bridge := Mirror.kitchenBridge }
      build builtinTypes {} Mirror.kitchenHub.states.values = .ok Mirror.kitchenBridge
        ∧ (∀ act ∈ actsOverCapacity, act.IsQuiet)
        ∧ (first.run actsOverCapacity).bridge.isRunning = true
        ∧ ∃ follower, (first.run actsOverCapacity).bridge.followers.find? 2 = some follower
          ∧ follower.unread (first.run actsOverCapacity).hub.bus = 0
          ∧ ¬ follower.switch.Shows (first.run actsOverCapacity).hub := by
  intro first
  have hsound : first.Sound := sound_of_build (List.Perm.refl _) Mirror.build_kitchenHub
  have hstarted : ∃ follower, (first.run [.start]).bridge.followers.find? 2 = some follower
      ∧ follower.switch.entityId = Mirror.kitchen
      ∧ follower.receiver = some (first.hub.bus.subscribe StateChange.eventType)
      ∧ ¬ follower.switch.Shows (first.hub.write (Mirror.kitchenWrite State.on "second")).2 := by
    refine ⟨_, rfl, rfl, rfl, ?_⟩
    rw [Switch.shows_iff_map rfl]
    decide +kernel
  obtain ⟨follower, hfind, hentity, hreceiver, hshows⟩ := hstarted
  have hmissed : first.Missed 2 actsOverCapacity := by
    unfold actsOverCapacity
    rw [List.replicate_succ]
    apply missed_of_burst hsound hfind _ hentity.symm hshows
    . intro other hother
      rw [List.eq_of_mem_replicate hother, hentity]
      decide
    . exact Nat.le_of_eq List.length_replicate.symm
    . intro act hact
      rw [List.eq_of_mem_replicate hact]
      trivial
    . rw [hreceiver]
      rfl
  have hbefore : (first.run ([.start] ++ writesOverCapacity.map .set)).bridge.followers.find? 2
      = some follower := by
    rw [run_append, bridge_run_set]
    exact hfind
  have hunread : follower.unread (first.run ([.start] ++ writesOverCapacity.map .set)).hub.bus
      = Bus.capacity + 1 := by
    have hsize := Hub.size_log_evolves ((first.run [.start]).evolves_run_set writesOverCapacity)
    have hlength : writesOverCapacity.length = Bus.capacity + 1 := by
      unfold writesOverCapacity
      rw [List.length_cons, List.length_replicate]
    rw [run_append]
    unfold Follower.unread
    rw [hreceiver]
    dsimp only [Bus.subscribe]
    rw [hsize, hlength]
    exact Nat.add_sub_cancel_left _ _
  -- The first reception finds out what is lost, and the others read what is left.
  obtain ⟨last, hlast, hhub, hleft⟩ := find?_run_receive hbefore (Bus.capacity + 1)
  rw [hunread, Nat.sub_self, ← hhub] at hleft
  rw [← run_append, ← actsOverCapacity] at hlast hleft
  have hstale := hmissed.stale hsound hlast
  obtain ⟨receiver, _, hreceiver, _⟩ := hstale.pending
  have hrunning : (first.run actsOverCapacity).bridge.isRunning = true := by
    apply isRunning_iff.2
    refine ⟨2, last, hlast, ?_⟩
    rw [hreceiver]
    rfl
  exact ⟨Mirror.build_kitchenHub, isQuiet_actsOverCapacity, hrunning, last, hlast,
    Nat.le_zero.1 hleft, hstale.not_shows⟩

end House

end HomeHub.Bridge
