import HomeHub.Proofs.Gateway.Report
import HomeHub.Proofs.Gateway.Streak
import HomeHub.Proofs.Light.Show
import Mathlib.Data.List.Induction

/-!
Whole observations: which commands are issued after which delays, which answers bring a write, and
that an observation ends with the first streak of failures that is too long.
-/

namespace HomeHub.Gateway

def RetryPolicy.pause (policy : RetryPolicy) (failures : Nat) : Option Duration :=
  if failures = 0 then none else some (policy.backoff failures)

structure Observation where
  entityId : EntityId
  lamp : Lamp
  hub : Hub
  sequel : Sequel := .again 0 none
  commands : List (Option Duration × Command) := []

namespace Observation

def pending (o : Observation) : Option (Option Duration × Command) :=
  match o.sequel with
  | .again _ delay => some (delay, o.lamp.observeCommand)
  | .ended => none

def issue (o : Observation) : Observation :=
  { o with commands := o.commands ++ o.pending.toList }

def start (entityId : EntityId) (lamp : Lamp) (hub : Hub) : Observation :=
  issue { entityId, lamp, hub }

def take (o : Observation) (answer : Except Error Response) : Observation :=
  match o.sequel with
  | .again failures _ =>
    let (sequel, lamp, hub) := o.lamp.follow o.entityId failures answer o.hub
    issue { o with sequel, lamp, hub }
  | .ended => o

def run (o : Observation) (answers : List (Except Error Response)) : Observation :=
  answers.foldl take o

theorem run_append (o : Observation) (answers more : List (Except Error Response))
    : o.run (answers ++ more) = (o.run answers).run more := by
  unfold run
  rw [List.foldl_append]

theorem run_concat (o : Observation) (answers : List (Except Error Response))
    (answer : Except Error Response)
    : o.run (answers ++ [answer]) = (o.run answers).take answer := by
  apply run_append

theorem take_of_ended {o : Observation} (h : o.sequel = .ended) (answer : Except Error Response)
    : o.take answer = o := by
  unfold take
  rw [h]

variable (entityId : EntityId) (lamp : Lamp) (hub : Hub)

def GivesUp (answers : List (Except Error Response)) : Prop :=
  HasStreak lamp.fails lamp.retry.maxAttempts.toNat answers

def updates (answers : List (Except Error Response)) : List (Except Error Response) :=
  answers.filter fun answer => !lamp.fails answer

structure Inv (o : Observation) : Prop where
  entityId_eq : o.entityId = entityId
  retry_eq : o.lamp.retry = lamp.retry
  fails_eq : o.lamp.fails = lamp.fails
  follows : o.hub.Follows hub
  written : ∀ change ∈ o.hub.changesSince hub, change.entityId = entityId
  shown : o.hub.changesSince hub ≠ [] → ∃ state, o.hub.state? entityId.text = some state ∧
    state.value = o.lamp.view.value ∧ state.attributes = o.lamp.view.attributes

structure Running (answers : List (Except Error Response)) (o : Observation) : Prop
    extends Inv entityId lamp hub o where
  notGivenUp : ¬ GivesUp lamp answers
  sequel : o.sequel
    = .again (streak lamp.fails answers) (lamp.retry.pause (streak lamp.fails answers))
  commands : ∃ earlier, earlier.length = answers.length ∧ o.commands
    = earlier ++ [(lamp.retry.pause (streak lamp.fails answers), o.lamp.observeCommand)]
  changes : (o.hub.changesSince hub).length = (updates lamp answers).length

structure Ended (answers : List (Except Error Response)) (o : Observation) : Prop
    extends Inv entityId lamp hub o where
  givesUp : GivesUp lamp answers
  sequel : o.sequel = .ended
  givenUp : o.lamp.givenUp = true
  commands : o.commands.length ≤ answers.length
  changes : (o.hub.changesSince hub).length
    = (updates lamp (answers.take o.commands.length)).length + 1

variable {entityId lamp hub}

theorem Inv.show {o : Observation} (h : Inv entityId lamp hub o) (sequel : Sequel) {other : Lamp}
    (hretry : other.retry = o.lamp.retry) (hfails : other.fails = o.lamp.fails)
    : Inv entityId lamp hub
        (issue { o with sequel, lamp := other, hub := o.hub.showLight o.entityId other.view }) := by
  constructor
  . exact h.entityId_eq
  . exact hretry.trans h.retry_eq
  . exact hfails.trans h.fails_eq
  . exact Hub.follows_showLight _ _ _ h.follows
  . intro change hchange
    dsimp only [issue] at hchange
    rw [Hub.changesSince_showLight _ _ _ h.follows] at hchange
    rw [List.mem_append, List.mem_singleton] at hchange
    cases hchange with
    | inl hearlier => exact h.written change hearlier
    | inr hlast =>
      rw [hlast]
      exact h.entityId_eq
  . intro
    dsimp only [issue]
    refine ⟨o.hub.shown o.entityId other.view, ?_, ?_, ?_⟩
    . rw [Hub.state?_showLight]
      rw [h.entityId_eq]
      simp
    . simp
    . simp

theorem not_givesUp_concat {answers : List (Except Error Response)}
    {answer : Except Error Response} (h : ¬ GivesUp lamp answers)
    (hstreak : streak lamp.fails (answers ++ [answer]) < lamp.retry.maxAttempts.toNat)
    : ¬ GivesUp lamp (answers ++ [answer]) := by
  unfold GivesUp
  rw [hasStreak_concat]
  intro hgives
  cases hgives with
  | inl hgives => exact h hgives
  | inr hgives => omega

theorem Running.length_commands {answers : List (Except Error Response)} {o : Observation}
    (h : Running entityId lamp hub answers o)
    : o.commands.length = answers.length + 1 := by
  obtain ⟨earlier, hearlier, hcommands⟩ := h.commands
  rw [hcommands]
  simp [hearlier]

theorem length_changes_show {o : Observation} (h : Inv entityId lamp hub o) (view : Light.View)
    : ((o.hub.showLight o.entityId view).changesSince hub).length
        =
      (o.hub.changesSince hub).length + 1 := by
  rw [Hub.changesSince_showLight _ _ _ h.follows]
  simp

theorem Ended.take {answers : List (Except Error Response)} {o : Observation}
    (h : Ended entityId lamp hub answers o) (answer : Except Error Response)
    : Ended entityId lamp hub (answers ++ [answer]) (o.take answer) := by
  rw [take_of_ended h.sequel]
  constructor
  . exact h.toInv
  . exact hasStreak_append _ h.givesUp [answer]
  . exact h.sequel
  . exact h.givenUp
  . rw [List.length_append]
    have := h.commands
    omega
  . rw [List.take_append_of_le_length h.commands]
    exact h.changes

theorem Running.update {answers : List (Except Error Response)} {o : Observation}
    {answer : Except Error Response} (hattempts : 1 ≤ lamp.retry.maxAttempts.toNat)
    (h : Running entityId lamp hub answers o) (hanswer : lamp.fails answer = false)
    : Running entityId lamp hub (answers ++ [answer]) (o.take answer) := by
  have hstreak : streak lamp.fails (answers ++ [answer]) = 0 := by
    rw [streak_concat]
    simp [hanswer]
  rw [← h.fails_eq] at hanswer
  obtain ⟨other, hreported, hfollow⟩ := Lamp.follow_of_not_fails hanswer o.entityId
    (streak lamp.fails answers) o.hub
  have htake : o.take answer
      = issue { o with
          sequel := .again 0 none
          lamp := other
          hub := o.hub.showLight o.entityId other.view } := by
    unfold Observation.take
    rw [h.sequel]
    dsimp only
    rw [hfollow]
  rw [htake]
  constructor
  . exact h.show _ hreported.retry hreported.fails
  . apply not_givesUp_concat h.notGivenUp
    omega
  . rw [hstreak]
    rfl
  . refine ⟨o.commands, ?_, ?_⟩
    . rw [h.length_commands]
      simp
    . rw [hstreak]
      rfl
  . dsimp only [issue]
    rw [length_changes_show h.toInv]
    rw [h.changes]
    unfold updates
    rw [h.fails_eq] at hanswer
    simp [hanswer]

theorem Running.retry {answers : List (Except Error Response)} {o : Observation}
    {answer : Except Error Response} (h : Running entityId lamp hub answers o)
    (hanswer : lamp.fails answer = true)
    (hmore : streak lamp.fails answers + 1 < lamp.retry.maxAttempts.toNat)
    : Running entityId lamp hub (answers ++ [answer]) (o.take answer) := by
  have hstreak : streak lamp.fails (answers ++ [answer]) = streak lamp.fails answers + 1 := by
    rw [streak_concat]
    simp [hanswer]
  have htake : o.take answer
      = issue { o with
          sequel := .again (streak lamp.fails answers + 1)
            (some (lamp.retry.backoff (streak lamp.fails answers + 1))) } := by
    rw [← h.fails_eq] at hanswer
    unfold Observation.take
    rw [h.sequel]
    dsimp only
    rw [Lamp.follow_of_fails hanswer]
    rw [h.retry_eq]
    rw [if_neg (by omega)]
  rw [htake]
  constructor
  . constructor
    . exact h.entityId_eq
    . exact h.retry_eq
    . exact h.fails_eq
    . exact h.follows
    . exact h.written
    . exact h.shown
  . apply not_givesUp_concat h.notGivenUp
    omega
  . rw [hstreak]
    rfl
  . refine ⟨o.commands, ?_, ?_⟩
    . rw [h.length_commands]
      simp
    . rw [hstreak]
      rfl
  . dsimp only [issue]
    rw [h.changes]
    unfold updates
    simp [hanswer]

theorem Running.giveUp {answers : List (Except Error Response)} {o : Observation}
    {answer : Except Error Response} (h : Running entityId lamp hub answers o)
    (hanswer : lamp.fails answer = true)
    (hlast : lamp.retry.maxAttempts.toNat ≤ streak lamp.fails answers + 1)
    : Ended entityId lamp hub (answers ++ [answer]) (o.take answer) := by
  have htake : o.take answer
      = issue { o with
          sequel := .ended
          lamp := o.lamp.giveUp
          hub := o.hub.showLight o.entityId o.lamp.giveUp.view } := by
    rw [← h.fails_eq] at hanswer
    unfold Observation.take
    rw [h.sequel]
    dsimp only
    rw [Lamp.follow_of_fails hanswer]
    rw [h.retry_eq]
    rw [if_pos hlast]
  have hlength : (o.take answer).commands.length = answers.length + 1 := by
    rw [htake]
    dsimp only [issue, pending]
    simp [h.length_commands]
  constructor
  . rw [htake]
    exact h.show _ rfl rfl
  . apply hasStreak_of_le_streak
    rw [streak_concat]
    simpa [hanswer] using hlast
  . rw [htake]
    rfl
  . rw [htake]
    rfl
  . rw [hlength]
    simp
  . rw [hlength]
    rw [htake]
    dsimp only [issue]
    rw [length_changes_show h.toInv]
    rw [h.changes]
    rw [List.take_of_length_le (by simp)]
    unfold updates
    simp [hanswer]

variable (entityId hub)

end Observation

end HomeHub.Gateway
