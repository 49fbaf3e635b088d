import HomeHub.Gateway.Fleet
import HomeHub.Proofs.EntityId.Generate
import HomeHub.Proofs.Light.Show

/-!
Lamps that are shown: every registered lamp has a state, and that state is what the lamp shows.
-/

namespace HomeHub.Gateway

open Light (Component Registered)

variable {κ : Type} {component : Component κ} {hub : Hub}

def IsRegistered (component : Component κ) (registered : Registered κ) : Prop :=
  component.lights.find? registered.entityId.text = some registered

theorem find?_register {entityId : EntityId} {handle : κ} {key : String} {registered : Registered κ}
    (h : (component.register entityId handle).lights.find? key = some registered)
    : entityId.text = key ∧ registered = ⟨entityId, handle⟩
        ∨ entityId.text ≠ key ∧ component.lights.find? key = some registered := by
  unfold Component.register at h
  rw [Table.find?_insert] at h
  split at h
  . next hkey =>
    cases h
    exact .inl ⟨hkey, rfl⟩
  . next hkey => exact .inr ⟨hkey, h⟩

theorem mem_register {entityId : EntityId} {handle : κ} {registered : Registered κ}
    (h : registered ∈ (component.register entityId handle).lights.values)
    : registered = ⟨entityId, handle⟩ ∨ registered ∈ component.lights.values := by
  obtain ⟨key, hkey⟩ := Table.mem_values_iff.1 h
  cases find?_register hkey with
  | inl hnew => exact .inl hnew.2
  | inr hold => exact .inr (Table.mem_values_iff.2 ⟨key, hold.2⟩)

theorem isRegistered_register {registered : Registered κ} {entityId : EntityId} (handle : κ)
    (h : IsRegistered component registered) (hfree : component.isTaken hub entityId = false)
    : IsRegistered (component.register entityId handle) registered := by
  unfold IsRegistered Component.register at *
  rw [Table.find?_insert]
  rw [if_neg]
  . exact h
  . intro hsame
    unfold Component.isTaken Table.contains at hfree
    rw [hsame, h] at hfree
    contradiction

variable [DecidableEq κ] {lamps : Table κ Lamp}

def Shows (lamps : Table κ Lamp) (hub : Hub) (registered : Registered κ) : Prop :=
  ∃ lamp state, lamps.find? registered.light = some lamp
    ∧ hub.state? registered.entityId.text = some state
    ∧ state.value = lamp.view.value ∧ state.attributes = lamp.view.attributes

structure Shown (lamps : Table κ Lamp) (component : Component κ) (hub : Hub) : Prop where
  keyed : ∀ key registered, component.lights.find? key = some registered →
    registered.entityId.text = key
  distinct : ∀ key key' registered registered',
    component.lights.find? key = some registered → component.lights.find? key' = some registered' →
    registered.light = registered'.light → key = key'
  shows : ∀ key registered, component.lights.find? key = some registered →
    Shows lamps hub registered

theorem Shows.congr {lamps' : Table κ Lamp} {hub' : Hub} {registered : Registered κ}
    (h : Shows lamps hub registered)
    (hlamp : lamps'.find? registered.light = lamps.find? registered.light)
    (hstate : hub'.state? registered.entityId.text = hub.state? registered.entityId.text)
    : Shows lamps' hub' registered := by
  obtain ⟨lamp, state, hfind, hfound, hvalue, hattributes⟩ := h
  exact ⟨lamp, state, hlamp.trans hfind, hstate.trans hfound, hvalue, hattributes⟩

theorem shown_empty : Shown lamps {} hub := by
  constructor
  . intro key registered h
    contradiction
  . intro key key' registered registered' h
    contradiction
  . intro key registered h
    contradiction

theorem Shown.isRegistered (h : Shown lamps component hub) {key : String}
    {registered : Registered κ} (hfind : component.lights.find? key = some registered)
    : IsRegistered component registered := by
  unfold IsRegistered
  rw [h.keyed key registered hfind]
  exact hfind

theorem Shown.write (h : Shown lamps component hub) (w : Write)
    (hother : component.lights.find? w.entityId.text = none)
    : Shown lamps component (hub.write w).2 := by
  constructor
  . exact h.keyed
  . exact h.distinct
  . intro key registered hfind
    apply (h.shows key registered hfind).congr rfl
    unfold Hub.write
    rw [Hub.state?_set]
    rw [if_neg]
    intro hsame
    rw [h.keyed key registered hfind] at hsame
    rw [hsame, hfind] at hother
    contradiction

theorem Shown.insert (h : Shown lamps component hub) {handle : κ} (lamp : Lamp)
    (hother : ∀ registered ∈ component.lights.values, registered.light ≠ handle)
    : Shown (lamps.insert handle lamp) component hub := by
  constructor
  . exact h.keyed
  . exact h.distinct
  . intro key registered hfind
    apply (h.shows key registered hfind).congr _ rfl
    rw [Table.find?_insert]
    rw [if_neg]
    intro hsame
    exact hother registered (Table.mem_values_iff.2 ⟨key, hfind⟩) hsame.symm

theorem Shown.show (h : Shown lamps component hub) {registered : Registered κ}
    (hregistered : IsRegistered component registered) (lamp : Lamp)
    : Shown (lamps.insert registered.light lamp) component
        (hub.showLight registered.entityId lamp.view) := by
  constructor
  . exact h.keyed
  . exact h.distinct
  . intro key other hfind
    -- A lamp is registered once, so another light with it is the same light.
    by_cases hsame : registered.light = other.light
    . have hkey := h.distinct _ _ _ _ hregistered hfind hsame
      rw [← hkey] at hfind
      unfold IsRegistered at hregistered
      rw [hregistered] at hfind
      cases hfind
      refine ⟨lamp, hub.shown registered.entityId lamp.view, ?_, ?_, ?_, ?_⟩
      . rw [Table.find?_insert]
        simp
      . rw [Hub.state?_showLight]
        simp
      . simp
      . simp
    . apply (h.shows key other hfind).congr
      . rw [Table.find?_insert]
        rw [if_neg hsame]
      . rw [Hub.state?_showLight]
        rw [if_neg]
        intro htext
        apply hsame
        rw [← h.keyed key other hfind, ← htext] at hfind
        unfold IsRegistered at hregistered
        rw [hregistered] at hfind
        cases hfind
        rfl

theorem Shown.register (h : Shown lamps component hub) (entityId : EntityId) {handle : κ}
    {lamp : Lamp} (hlamp : lamps.find? handle = some lamp)
    (hother : ∀ registered ∈ component.lights.values, registered.light ≠ handle)
    : Shown lamps (component.register entityId handle) (hub.showLight entityId lamp.view) := by
  have hlight : ∀ key registered, component.lights.find? key = some registered →
      registered.light ≠ handle := by
    intro key registered hkey
    exact hother registered (Table.mem_values_iff.2 ⟨key, hkey⟩)
  constructor
  . intro key registered hkey
    cases find?_register hkey with
    | inl hnew =>
      rw [hnew.2]
      exact hnew.1
    | inr hold => exact h.keyed key registered hold.2
  . intro key key' registered registered' hkey hkey' hsame
    cases find?_register hkey with
    | inl hnew =>
      cases find?_register hkey' with
      | inl hnew' => exact hnew.1.symm.trans hnew'.1
      | inr hold' =>
        rw [hnew.2] at hsame
        exact absurd hsame.symm (hlight key' registered' hold'.2)
    | inr hold =>
      cases find?_register hkey' with
      | inl hnew' =>
        rw [hnew'.2] at hsame
        exact absurd hsame (hlight key registered hold.2)
      | inr hold' => exact h.distinct _ _ _ _ hold.2 hold'.2 hsame
  . intro key registered hkey
    cases find?_register hkey with
    | inl hnew =>
      rw [hnew.2]
      refine ⟨lamp, hub.shown entityId lamp.view, hlamp, ?_, ?_, ?_⟩
      . rw [Hub.state?_showLight]
        simp
      . simp
      . simp
    | inr hold =>
      apply (h.shows key registered hold.2).congr rfl
      rw [Hub.state?_showLight]
      rw [h.keyed key registered hold.2]
      rw [if_neg hold.1]

theorem Shown.add {γ : Type} (fleet : Fleet γ κ) {component : Component κ} {hub : Hub}
    {handles : List κ} (h : Shown fleet.lamps component hub) (hdistinct : handles.Nodup)
    (hmade : ∀ handle ∈ handles, (fleet.lamps.find? handle).isSome)
    (hother : ∀ handle ∈ handles, ∀ registered ∈ component.lights.values,
      registered.light ≠ handle)
    : let (_, component', hub') := component.add fleet.view hub handles
      Shown fleet.lamps component' hub'
        ∧ ∀ registered, IsRegistered component registered → IsRegistered component' registered := by
  induction handles generalizing component hub with
  | nil => exact ⟨h, fun _ hregistered => hregistered⟩
  | cons handle handles ih =>
    obtain ⟨hhandle, hrest⟩ := List.nodup_cons.1 hdistinct
    obtain ⟨lamp, hlamp⟩ := Option.isSome_iff_exists.1 (hmade handle (by simp))
    have hview : fleet.view handle = lamp.view := by
      unfold Fleet.view
      rw [hlamp]
      rfl
    unfold Component.add
    cases hid : EntityId.generate Light.domain (fleet.view handle).name (component.isTaken hub) with
    | error e => exact ⟨h, fun _ hregistered => hregistered⟩
    | ok entityId =>
      have hfree := (EntityId.of_generate hid).2
      have hshown := h.register entityId hlamp (hother handle (by simp))
      dsimp only
      rw [hview]
      obtain ⟨hall, hkept⟩ := ih hshown hrest
        (fun other hmem => hmade other (List.mem_cons_of_mem _ hmem)) (by
          intro other hmem registered hregistered
          cases mem_register hregistered with
          | inl hnew =>
            rw [hnew]
            intro hsame
            apply hhandle
            rw [show handle = other from hsame]
            exact hmem
          | inr hold => exact hother other (List.mem_cons_of_mem _ hmem) registered hold)
      refine ⟨hall, ?_⟩
      intro registered hregistered
      exact hkept registered (isRegistered_register handle hregistered hfree)

end HomeHub.Gateway
