import HomeHub.Bridge.Switch

/-!
What a client sees of a switch: it always has a characteristic that says whether it is on, and only
this changes.
-/

namespace HomeHub.Bridge

namespace Accessory

def IsOn (accessory : Accessory) (on : Bool) : Prop :=
  accessory.characteristic? onName = some { name := onName, format := .bool, value := .bool on }

theorem find?_replaceIn {c d : Characteristic} {characteristics : List Characteristic}
    (h : characteristics.find? (·.name == c.name) = some d)
    : (replaceIn c characteristics).find? (·.name == c.name) = some c := by
  induction characteristics with
  | nil => contradiction
  | cons first rest ih =>
    unfold replaceIn
    split
    . simp
    . next hname =>
      rw [List.find?_cons_of_neg (by simpa using hname)] at h ⊢
      exact ih h

theorem findSome?_replaceAmong {c d : Characteristic} {services : List Service}
    (h : services.findSome? (·.characteristic? c.name) = some d)
    : (replaceAmong c services).findSome? (·.characteristic? c.name) = some c := by
  induction services with
  | nil => contradiction
  | cons first rest ih =>
    unfold replaceAmong
    split
    . next hfirst =>
      obtain ⟨found, hfound⟩ := Option.isSome_iff_exists.1 hfirst
      rw [List.findSome?_cons]
      unfold Service.characteristic? at hfound ⊢
      rw [find?_replaceIn hfound]
    . next hfirst =>
      have hnone : first.characteristic? c.name = none := by simpa using hfirst
      rw [List.findSome?_cons, hnone] at h ⊢
      exact ih h

theorem find?_replaceIn_of_ne {c : Characteristic} {name : String} (h : c.name ≠ name)
    (characteristics : List Characteristic)
    : (replaceIn c characteristics).find? (·.name == name)
        =
      characteristics.find? (·.name == name) := by
  induction characteristics with
  | nil => rfl
  | cons first rest ih =>
    unfold replaceIn
    split
    . next hname =>
      rw [List.find?_cons_of_neg (by simpa using h)]
      rw [List.find?_cons_of_neg (by simpa [hname] using h)]
    . rw [List.find?_cons, List.find?_cons]
      rw [ih]

theorem findSome?_replaceAmong_of_ne {c : Characteristic} {name : String} (h : c.name ≠ name)
    (services : List Service)
    : (replaceAmong c services).findSome? (·.characteristic? name)
        =
      services.findSome? (·.characteristic? name) := by
  induction services with
  | nil => rfl
  | cons first rest ih =>
    unfold replaceAmong
    split
    . rw [List.findSome?_cons, List.findSome?_cons]
      unfold Service.characteristic?
      rw [find?_replaceIn_of_ne h]
    . rw [List.findSome?_cons, List.findSome?_cons]
      rw [ih]

theorem name_of_characteristic? {accessory : Accessory} {name : String} {c : Characteristic}
    (h : accessory.characteristic? name = some c)
    : c.name = name := by
  unfold characteristic? at h
  obtain ⟨service, _, hservice⟩ := List.exists_of_findSome?_eq_some h
  unfold Service.characteristic? at hservice
  simpa using List.find?_some hservice

theorem store_on {accessory : Accessory} {on : Bool} (h : accessory.IsOn on) (value : Bool)
    : ∃ stored, accessory.store onName (.bool value) = .ok stored
        ∧ stored.entityId = accessory.entityId ∧ stored.IsOn value := by
  let shown : Characteristic := { name := onName, format := .bool, value := .bool value }
  refine ⟨{ accessory with services := replaceAmong shown accessory.services }, ?_, rfl, ?_⟩
  . unfold IsOn at h
    unfold store
    rw [h]
    rfl
  . unfold IsOn characteristic? at h ⊢
    exact findSome?_replaceAmong (c := shown) h

theorem characteristic?_of_store {accessory stored : Accessory} {name other : String} {value : Json}
    (hstore : accessory.store name value = .ok stored) (hother : name ≠ other)
    : stored.entityId = accessory.entityId
        ∧ stored.characteristic? other = accessory.characteristic? other := by
  unfold store at hstore
  split at hstore
  . contradiction
  . next c hc =>
    unfold Characteristic.store at hstore
    split at hstore
    . cases hstore
      refine ⟨rfl, ?_⟩
      apply findSome?_replaceAmong_of_ne
      dsimp only
      rw [name_of_characteristic? hc]
      exact hother
    . contradiction

theorem isOn_of_store {accessory stored : Accessory} {name : String} {value : Json} {on : Bool}
    (h : accessory.IsOn on) (hstore : accessory.store name value = .ok stored)
    : stored.entityId = accessory.entityId ∧ ∃ on', stored.IsOn on' := by
  by_cases hname : name = onName
  . subst hname
    cases value with
    | bool value =>
      obtain ⟨shown, hshown, hentity, hon⟩ := store_on h value
      rw [hshown] at hstore
      cases hstore
      exact ⟨hentity, value, hon⟩
    -- The characteristic takes nothing but truth values.
    | _ =>
      unfold store IsOn at *
      rw [h] at hstore
      contradiction
  . obtain ⟨hentity, hsame⟩ := characteristic?_of_store hstore hname
    refine ⟨hentity, on, ?_⟩
    unfold IsOn
    rw [hsame]
    exact h

end Accessory

namespace Switch

theorem on?_of_isOn {switch : Switch} {on : Bool} (h : switch.accessory.IsOn on)
    : switch.on? = some (.bool on) := by
  unfold on?
  rw [h]
  rfl

theorem exists_new (entityId : EntityId) (displayName : String) (aid : Nat)
    : ∃ switch, new entityId displayName aid = .ok switch
        ∧ switch.entityId = entityId ∧ switch.aid = aid ∧ switch.awaiting = false
        ∧ switch.accessory.IsOn false := by
  exact ⟨_, rfl, rfl, rfl, rfl, rfl⟩

theorem write_on {switch : Switch} {on : Bool} (h : switch.accessory.IsOn on) (value : Bool)
    : ∃ written,
        switch.write onName (.bool value) = .ok (written, some (.move switch.entityId value))
        ∧ written.entityId = switch.entityId ∧ written.awaiting = true
        ∧ written.accessory.IsOn value := by
  obtain ⟨stored, hstored, hentity, hon⟩ := Accessory.store_on h value
  refine ⟨{ accessory := stored, awaiting := true }, ?_, hentity, rfl, hon⟩
  unfold write
  rw [hstored]
  dsimp only [bind, Except.bind, command, entityId]
  rw [if_pos rfl]
  rw [hentity]
  rfl

theorem write_of_ne {switch written : Switch} {characteristic : String} {value : Json}
    {request : Option Request}
    (h : switch.write characteristic value = .ok (written, request))
    (hother : characteristic ≠ onName)
    : written.entityId = switch.entityId ∧ written.awaiting = switch.awaiting
        ∧ ∀ on, switch.accessory.IsOn on → written.accessory.IsOn on := by
  unfold write at h
  cases hstore : switch.accessory.store characteristic value with
  | error e =>
    rw [hstore] at h
    contradiction
  | ok stored =>
    obtain ⟨hentity, hsame⟩ := Accessory.characteristic?_of_store hstore hother
    rw [hstore] at h
    dsimp only [bind, Except.bind, pure, Except.pure] at h
    rw [if_neg hother] at h
    cases h
    refine ⟨hentity, rfl, ?_⟩
    intro on hon
    unfold Accessory.IsOn
    rw [hsame]
    exact hon

theorem isOn_of_write {switch written : Switch} {characteristic : String} {value : Json}
    {request : Option Request} {on : Bool} (h : switch.accessory.IsOn on)
    (hwrite : switch.write characteristic value = .ok (written, request))
    : written.entityId = switch.entityId ∧ ∃ on', written.accessory.IsOn on' := by
  unfold write at hwrite
  cases hstore : switch.accessory.store characteristic value with
  | error e =>
    rw [hstore] at hwrite
    contradiction
  | ok stored =>
    have hstored := Accessory.isOn_of_store h hstore
    rw [hstore] at hwrite
    dsimp only [bind, Except.bind, pure, Except.pure, command] at hwrite
    split at hwrite
    . split at hwrite
      . cases hwrite
        exact hstored
      . contradiction
    . cases hwrite
      exact hstored

theorem reflect_some {switch : Switch} {on : Bool} (h : switch.accessory.IsOn on) (state : State)
    : (switch.reflect (some state)).entityId = switch.entityId
        ∧ (switch.reflect (some state)).awaiting = false
        ∧ (switch.reflect (some state)).accessory.IsOn
            (if switch.awaiting then on else state.isOn) := by
  cases hawaiting : switch.awaiting with
  | true =>
    have hreflect : switch.reflect (some state)
        = { accessory := switch.accessory, awaiting := false } := by
      unfold reflect update
      simp [hawaiting]
    rw [hreflect]
    refine ⟨rfl, rfl, ?_⟩
    simpa using h
  | false =>
    obtain ⟨stored, hstored, hentity, hon⟩ := Accessory.store_on h state.isOn
    have hreflect : switch.reflect (some state) = { accessory := stored, awaiting := false } := by
      unfold reflect update setValue
      simp [hawaiting, hstored, Except.map]
    rw [hreflect]
    refine ⟨hentity, rfl, ?_⟩
    simpa using hon

theorem isOn_of_reflect {switch : Switch} {on : Bool} (h : switch.accessory.IsOn on)
    (news : Option State)
    : (switch.reflect news).entityId = switch.entityId
        ∧ ∃ on', (switch.reflect news).accessory.IsOn on' := by
  cases news with
  | none => exact ⟨rfl, on, h⟩
  | some state =>
    obtain ⟨hentity, _, hon⟩ := reflect_some h state
    exact ⟨hentity, _, hon⟩

end Switch

end HomeHub.Bridge
