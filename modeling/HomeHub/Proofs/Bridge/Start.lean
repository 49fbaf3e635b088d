import HomeHub.Proofs.Bridge.House
import HomeHub.Proofs.Bridge.Mirror

/-!
What a start does. The present state goes through the same gate as later changes do, so a switch
that still waits for the change of a command is not brought in step.
-/

namespace HomeHub.Bridge

theorem Follower.shows_follow_iff {hub : Hub} {follower : Follower} (h : follower.Sound hub)
    : (follower.follow hub).switch.Shows hub
        ↔ (follower.switch.awaiting = true → follower.switch.Shows hub) := by
  obtain ⟨on, hon⟩ := h.isOn
  obtain ⟨state, hstate⟩ := Option.isSome_iff_exists.1 h.state
  obtain ⟨hentity, _, hshown⟩ := Switch.reflect_some hon state
  unfold follow
  dsimp only
  rw [hstate]
  rw [← hentity] at hstate
  rw [Switch.shows_iff hshown hstate]
  rw [hentity] at hstate
  rw [Switch.shows_iff hon hstate]
  cases follower.switch.awaiting with
  | true => simp
  | false => simp

theorem Follower.awaiting_follow {hub : Hub} {follower : Follower} (h : follower.Sound hub)
    : (follower.follow hub).switch.awaiting = false := by
  obtain ⟨state, hstate⟩ := Option.isSome_iff_exists.1 h.state
  unfold follow
  dsimp only
  rw [hstate]
  rfl

namespace House

theorem mem_switches_start {house : House} (hstopped : house.bridge.isRunning = false)
    {switch : Switch}
    : switch ∈ (house.bridge.start house.hub).switches
        ↔ ∃ aid follower, house.bridge.followers.find? aid = some follower
          ∧ (follower.follow house.hub).switch = switch := by
  have hstart : house.bridge.start house.hub
      = house.bridge.mapFollowers (Follower.follow house.hub) := by
    unfold Bridge.start
    rw [hstopped]
    rfl
  rw [hstart]
  rw [mem_switches_iff]
  simp only [find?_mapFollowers, Option.map_eq_some_iff]
  constructor
  . intro h
    obtain ⟨aid, _, ⟨follower, hfind, rfl⟩, hswitch⟩ := h
    exact ⟨aid, follower, hfind, hswitch⟩
  . intro h
    obtain ⟨aid, follower, hfind, hswitch⟩ := h
    exact ⟨aid, _, ⟨follower, hfind, rfl⟩, hswitch⟩

theorem shows_start_iff {config : Config} {states : List State} {bridge : Bridge} {hub : Hub}
    (hstates : states.Perm hub.states.values)
    (hbuild : build builtinTypes config states = .ok bridge) {acts : List Act} {house : House}
    (hhouse : run { hub, bridge } acts = house) (hstopped : house.bridge.isRunning = false)
    : ((∀ switch ∈ (house.bridge.start house.hub).switches, switch.Shows house.hub)
        ↔ ∀ switch ∈ house.bridge.switches, switch.awaiting = true → switch.Shows house.hub)
      ∧ ∀ switch ∈ (house.bridge.start house.hub).switches, switch.awaiting = false := by
  have hsound : house.Sound := by
    rw [← hhouse]
    exact sound_run (sound_of_build hstates hbuild) acts
  refine ⟨⟨?_, ?_⟩, ?_⟩
  . intro hshows switch hswitch
    obtain ⟨aid, follower, hfind, rfl⟩ := mem_switches_iff.1 hswitch
    rw [← Follower.shows_follow_iff (hsound.follower aid follower hfind)]
    apply hshows
    exact (mem_switches_start hstopped).2 ⟨aid, follower, hfind, rfl⟩
  . intro hshows switch hswitch
    obtain ⟨aid, follower, hfind, rfl⟩ := (mem_switches_start hstopped).1 hswitch
    rw [Follower.shows_follow_iff (hsound.follower aid follower hfind)]
    apply hshows
    exact mem_switches_iff.2 ⟨aid, follower, hfind, rfl⟩
  . intro switch hswitch
    obtain ⟨aid, follower, hfind, rfl⟩ := (mem_switches_start hstopped).1 hswitch
    exact Follower.awaiting_follow (hsound.follower aid follower hfind)

def stoppedThenSet : List Act :=
  [.start, .stop, .set (Mirror.kitchenWrite State.on "second")]

theorem shows_start_after_stop
    : let house := run { hub := Mirror.kitchenHub, bridge := Mirror.kitchenBridge } stoppedThenSet
      build builtinTypes {} Mirror.kitchenHub.states.values = .ok Mirror.kitchenBridge
        ∧ house.bridge.isRunning = false
        ∧ (house.bridge.start house.hub).switches.length = 1
        ∧ ∀ switch ∈ (house.bridge.start house.hub).switches, switch.Shows house.hub := by
  intro house
  have hstopped : house.bridge.isRunning = false := by decide +kernel
  have hidle : ∀ switch ∈ house.bridge.switches, switch.awaiting = false := by decide +kernel
  refine ⟨Mirror.build_kitchenHub, hstopped, by decide +kernel, ?_⟩
  apply (shows_start_iff (List.Perm.refl _) Mirror.build_kitchenHub rfl hstopped).1.2
  intro switch hswitch hawaiting
  rw [hidle switch hswitch] at hawaiting
  contradiction

def writtenThenSet : List Act :=
  [.write 2 onName (.bool true), .set (Mirror.kitchenWrite State.on "second"),
   .set (Mirror.kitchenWrite State.off "third")]

theorem not_shows_start_after_write
    : let house := run { hub := Mirror.kitchenHub, bridge := Mirror.kitchenBridge } writtenThenSet
      build builtinTypes {} Mirror.kitchenHub.states.values = .ok Mirror.kitchenBridge
        ∧ house.bridge.isRunning = false
        ∧ ∃ switch ∈ (house.bridge.start house.hub).switches, ¬ switch.Shows house.hub := by
  intro house
  have hswitches : ∃ switch, (house.bridge.start house.hub).switches = [switch]
      ∧ ¬ switch.Shows house.hub := by
    refine ⟨_, rfl, ?_⟩
    rw [Switch.shows_iff_map rfl]
    decide +kernel
  obtain ⟨switch, hswitch, hshows⟩ := hswitches
  refine ⟨Mirror.build_kitchenHub, by decide +kernel, switch, ?_, hshows⟩
  rw [hswitch]
  simp

end House

end HomeHub.Bridge
