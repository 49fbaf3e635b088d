import HomeHub.Gateway.Observation
import Mathlib.Logic.Relation

/-!
How a lamp takes an answer to its observation: which answers are failures, what stays when it is
refreshed, and that a lamp which has been given up is never available again.
-/

namespace HomeHub.Gateway

def Device.isDark (device : Device) : Bool :=
  match device.lightControl with
  | none => true
  | some control => control.lights.isEmpty

def failsDevice : Except Error Response → Bool
  | .ok (.device device) => device.isDark
  | _ => true

def failsGroup : Except Error Response → Bool
  | .ok (.group _) => false
  | _ => true

theorem exists_of_not_failsDevice {answer : Except Error Response} (h : failsDevice answer = false)
    : ∃ device, answer = .ok (.device device) ∧ device.isDark = false := by
  unfold failsDevice at h
  split at h
  . next device => exact ⟨device, rfl, h⟩
  . contradiction

theorem exists_of_not_failsGroup {answer : Except Error Response} (h : failsGroup answer = false)
    : ∃ group, answer = .ok (.group group) := by
  unfold failsGroup at h
  split at h
  . next group => exact ⟨group, rfl⟩
  . contradiction

namespace Lamp

def fails (lamp : Lamp) (answer : Except Error Response) : Bool :=
  match lamp.resource with
  | .device _ => failsDevice answer
  | .group _ => failsGroup answer

structure Reported (lamp other : Lamp) : Prop where
  retry : other.retry = lamp.retry
  givenUp : other.givenUp = lamp.givenUp
  fails : other.fails = lamp.fails

theorem ofDevice_of_isDark {device : Device} (h : device.isDark = true)
    : Snapshot.ofDevice device = .error (.notALight device.id) := by
  unfold Device.isDark at h
  unfold Snapshot.ofDevice
  cases hcontrol : device.lightControl with
  | none => rfl
  | some control =>
    rw [hcontrol] at h
    dsimp only at h ⊢
    rw [List.isEmpty_iff.1 h]

theorem ofDevice_of_not_isDark {device : Device} (h : device.isDark = false)
    : ∃ snapshot, Snapshot.ofDevice device = .ok snapshot := by
  unfold Device.isDark at h
  unfold Snapshot.ofDevice
  cases hcontrol : device.lightControl with
  | none =>
    rw [hcontrol] at h
    contradiction
  | some control =>
    rw [hcontrol] at h
    dsimp only at h ⊢
    cases hlights : control.lights with
    | nil =>
      rw [hlights] at h
      contradiction
    | cons light rest => exact ⟨_, rfl⟩

theorem applyUpdate_of_fails {lamp : Lamp} {answer : Except Error Response}
    (h : lamp.fails answer = true)
    : ∃ e, answer >>= lamp.applyUpdate = .error e := by
  cases answer with
  | error e => exact ⟨e, rfl⟩
  | ok response =>
    unfold fails at h
    dsimp only [bind, Except.bind, applyUpdate]
    cases hresource : lamp.resource with
    | device snapshot =>
      rw [hresource] at h
      cases response with
      | device device =>
        refine ⟨.notALight device.id, ?_⟩
        dsimp only [Response.toDevice, refreshDevice]
        rw [ofDevice_of_isDark h]
        rfl
      | _ => exact ⟨_, rfl⟩
    | group group =>
      rw [hresource] at h
      cases response with
      | group group => contradiction
      | _ => exact ⟨_, rfl⟩

theorem applyUpdate_device {lamp : Lamp} {old shown : Snapshot} {device : Device}
    (hresource : lamp.resource = .device old) (hshown : Snapshot.ofDevice device = .ok shown)
    : .ok (.device device) >>= lamp.applyUpdate = .ok { lamp with resource := .device shown } := by
  dsimp only [bind, Except.bind, applyUpdate]
  rw [hresource]
  dsimp only [Response.toDevice, refreshDevice]
  rw [hshown]
  rfl

theorem applyUpdate_group {lamp : Lamp} {old : Group} (hresource : lamp.resource = .group old)
    (group : Group)
    : .ok (.group group) >>= lamp.applyUpdate = .ok (lamp.refreshGroup group) := by
  dsimp only [bind, Except.bind, applyUpdate]
  rw [hresource]
  rfl

theorem applyUpdate_of_not_fails {lamp : Lamp} {answer : Except Error Response}
    (h : lamp.fails answer = false)
    : ∃ other, answer >>= lamp.applyUpdate = .ok other ∧ lamp.Reported other := by
  unfold fails at h
  cases hresource : lamp.resource with
  | device snapshot =>
    rw [hresource] at h
    obtain ⟨device, rfl, hlit⟩ := exists_of_not_failsDevice h
    obtain ⟨snapshot, hsnapshot⟩ := ofDevice_of_not_isDark hlit
    refine ⟨_, applyUpdate_device hresource hsnapshot, rfl, rfl, ?_⟩
    -- A device stays a device, so the same answers are failures.
    funext answer
    unfold fails
    rw [hresource]
  | group group =>
    rw [hresource] at h
    obtain ⟨group, rfl⟩ := exists_of_not_failsGroup h
    refine ⟨_, applyUpdate_group hresource group, rfl, rfl, ?_⟩
    funext answer
    unfold fails refreshGroup
    rw [hresource]

variable {lamp : Lamp} {answer : Except Error Response}

theorem follow_of_not_fails (h : lamp.fails answer = false) (entityId : EntityId) (failures : Nat)
    (hub : Hub)
    : ∃ other, lamp.Reported other ∧
        lamp.follow entityId failures answer hub
          =
        (.again 0 none, other, hub.showLight entityId other.view) := by
  obtain ⟨other, hother, hreported⟩ := applyUpdate_of_not_fails h
  refine ⟨other, hreported, ?_⟩
  unfold follow react
  rw [hother]

theorem follow_of_fails (h : lamp.fails answer = true) (entityId : EntityId) (failures : Nat)
    (hub : Hub)
    : lamp.follow entityId failures answer hub
        =
      if lamp.retry.maxAttempts.toNat ≤ failures + 1 then
        (.ended, lamp.giveUp, hub.showLight entityId lamp.giveUp.view)
      else (.again (failures + 1) (some (lamp.retry.backoff (failures + 1))), lamp, hub) := by
  obtain ⟨e, he⟩ := applyUpdate_of_fails h
  unfold follow react
  rw [he]
  by_cases hlast : lamp.retry.maxAttempts.toNat ≤ failures + 1
  . simp [hlast]
  . simp [hlast]

end Lamp

end HomeHub.Gateway
