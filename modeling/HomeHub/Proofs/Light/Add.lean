import HomeHub.Proofs.EntityId.Generate
import HomeHub.Proofs.Light.Dispatch
import HomeHub.Proofs.Light.Show
import Mathlib.Algebra.Group.Nat.Defs
import Mathlib.Logic.Relation

/-!
Lights that are added: each gets an id of its own that nobody has used, and nothing that was there
before is touched.
-/

namespace HomeHub.Light

variable {κ : Type}

namespace Component

def used (component : Component κ) (hub : Hub) : Finset String :=
  component.lights.keys.toFinset ∪ hub.states.keys.toFinset

theorem isTaken_iff {component : Component κ} {hub : Hub} {id : EntityId}
    : component.isTaken hub id = true ↔ id.text ∈ component.used hub := by
  unfold isTaken used Table.contains
  rw [Bool.or_eq_true]
  rw [Table.isSome_find?_iff, Table.isSome_find?_iff]
  simp

theorem notMem_used_iff {component : Component κ} {hub : Hub} {key : String}
    : key ∉ component.used hub
        ↔ component.lights.find? key = none ∧ hub.state? key = none := by
  unfold used Hub.state?
  rw [Finset.mem_union, List.mem_toFinset, List.mem_toFinset]
  rw [← Table.isSome_find?_iff, ← Table.isSome_find?_iff]
  simp

theorem used_register (component : Component κ) (hub : Hub) (id : EntityId) (light : κ)
    (view : View)
    : (component.register id light).used (hub.showLight id view)
        =
      insert id.text (component.used hub) := by
  have hstates : (hub.showLight id view).states
      = hub.states.insert id.text (hub.shown id view) := by
    rfl
  ext key
  unfold used register
  rw [hstates]
  simp only [Finset.mem_union, Finset.mem_insert, List.mem_toFinset, Table.mem_keys_insert]
  tauto

structure Added (view : κ → View) (component : Component κ) (hub : Hub) (lights : List κ)
    (ids : List EntityId) (component' : Component κ) (hub' : Hub) : Prop where
  length : ids.length = lights.length
  nodup : ids.Nodup
  domain : ∀ id ∈ ids, id.domain = Light.domain
  fresh : ∀ id ∈ ids, component.lights.find? id.text = none ∧ hub.state? id.text = none
  shown : ∀ (i : Nat) id light, ids[i]? = some id → lights[i]? = some light →
    component'.light? id.text = some light
      ∧ ∃ state, hub'.state? id.text = some state ∧ state.entityId = id
        ∧ state.value = (view light).value ∧ state.attributes = (view light).attributes
  others : ∀ key, (∀ id ∈ ids, id.text ≠ key) →
    component'.lights.find? key = component.lights.find? key ∧ hub'.state? key = hub.state? key

variable {view : κ → View} {component component' : Component κ} {hub hub' : Hub}

theorem added_nil : Added view component hub [] [] component hub := by
  constructor
  . rfl
  . simp
  . simp
  . simp
  . simp
  . intro key _
    exact ⟨rfl, rfl⟩

theorem Added.cons {light : κ} {lights : List κ} {id : EntityId} {ids : List EntityId}
    (hdomain : id.domain = Light.domain) (hfree : id.text ∉ component.used hub)
    (h : Added view (component.register id light) (hub.showLight id (view light)) lights ids
      component' hub')
    : Added view component hub (light :: lights) (id :: ids) component' hub' := by
  have hfind : ∀ key, (component.register id light).lights.find? key
      = if id.text = key then some ⟨id, light⟩ else component.lights.find? key := by
    intro key
    apply Table.find?_insert
  -- The id is in use by now, so none of the later ones has its text.
  have hlater : ∀ other ∈ ids, other.text ≠ id.text := by
    intro other hother hsame
    have hnone := (h.fresh other hother).1
    rw [hfind, if_pos hsame.symm] at hnone
    contradiction
  constructor
  . simp [h.length]
  . rw [List.nodup_cons]
    refine ⟨?_, h.nodup⟩
    intro hmem
    exact hlater id hmem rfl
  . intro other hother
    cases hother with
    | head => exact hdomain
    | tail _ hother => exact h.domain other hother
  . intro other hother
    cases hother with
    | head => exact notMem_used_iff.1 hfree
    | tail _ hother =>
      have hne : id.text ≠ other.text := (hlater other hother).symm
      have hfresh := h.fresh other hother
      rw [hfind, if_neg hne, Hub.state?_showLight, if_neg hne] at hfresh
      exact hfresh
  . intro i other light' hid hlight
    cases i with
    | zero =>
      cases hid
      cases hlight
      obtain ⟨hlights, hstate⟩ := h.others id.text hlater
      rw [hfind, if_pos rfl] at hlights
      rw [Hub.state?_showLight, if_pos rfl] at hstate
      refine ⟨?_, hub.shown id (view light), hstate, ?_, ?_, ?_⟩
      . unfold light?
        rw [hlights]
        rfl
      . simp
      . simp
      . simp
    | succ i => exact h.shown i other light' hid hlight
  . intro key hkey
    have hne : id.text ≠ key := hkey id (by simp)
    have hothers := h.others key fun other hother => hkey other (List.mem_cons_of_mem _ hother)
    rw [hfind, if_neg hne, Hub.state?_showLight, if_neg hne] at hothers
    exact hothers

theorem Added.states {lights : List κ} {ids : List EntityId}
    (h : Added view component hub lights ids component' hub') {key : String} {state : State}
    (hstate : hub.state? key = some state)
    : hub'.state? key = some state := by
  rw [(h.others key _).2]
  . exact hstate
  . intro id hid hsame
    have hnone := (h.fresh id hid).2
    rw [hsame, hstate] at hnone
    contradiction

theorem Added.lights {lights : List κ} {ids : List EntityId}
    (h : Added view component hub lights ids component' hub') {key : String}
    {registered : Registered κ} (hregistered : component.lights.find? key = some registered)
    : component'.lights.find? key = some registered := by
  rw [(h.others key _).1]
  . exact hregistered
  . intro id hid hsame
    have hnone := (h.fresh id hid).1
    rw [hsame, hregistered] at hnone
    contradiction

theorem isDomain_domain : EntityId.IsDomain Light.domain := by
  exact EntityId.isDomain_domain .desk

theorem card_of_generate_error {name : String} {e : EntityId.Error}
    (h : EntityId.generate Light.domain name (component.isTaken hub) = .error e)
    : EntityId.lastSuffix ≤ (component.used hub).card := by
  by_contra hcard
  have hused : ∀ id, component.isTaken hub id = true → id.text ∈ component.used hub := by
    intro id htaken
    exact isTaken_iff.1 htaken
  obtain ⟨n, hid⟩ := EntityId.exists_generate isDomain_domain name (Nat.lt_of_not_le hcard) hused
  rw [h] at hid
  contradiction

theorem entries_register {id : EntityId} (h : id.text ∉ component.used hub) (light : κ)
    : (component.register id light).lights.entries
        =
      component.lights.entries ++ [(id.text, ⟨id, light⟩)] := by
  apply Table.entries_insert
  intro hkey
  rw [← Table.isSome_find?_iff, (notMem_used_iff.1 h).1] at hkey
  contradiction

theorem add_spec (view : κ → View) (component : Component κ) (hub : Hub) (lights : List κ)
    : (∃ ids component' hub', component.add view hub lights = (.ok ids, component', hub')
          ∧ Added view component hub lights ids component' hub'
          ∧ component'.lights.entries = component.lights.entries
            ++ List.zipWith (fun id light => (id.text, ⟨id, light⟩)) ids lights)
        ∨ ∃ e component' hub', component.add view hub lights = (.error e, component', hub')
          ∧ EntityId.lastSuffix ≤ (component'.used hub').card
          ∧ (component'.used hub').card ≤ (component.used hub).card + lights.length := by
  induction lights generalizing component hub with
  | nil => exact .inl ⟨[], component, hub, rfl, added_nil, by simp⟩
  | cons light lights ih =>
    unfold add
    cases hid : EntityId.generate Light.domain (view light).name (component.isTaken hub) with
    | error e =>
      exact .inr ⟨e, component, hub, rfl, card_of_generate_error hid, Nat.le_add_right _ _⟩
    | ok id =>
      obtain ⟨hdomain, htaken⟩ := EntityId.of_generate hid
      have hfree : id.text ∉ component.used hub := by
        rw [← isTaken_iff]
        simp [htaken]
      dsimp only
      cases ih (component.register id light) (hub.showLight id (view light)) with
      | inl hall =>
        obtain ⟨ids, component', hub', hadd, hadded, hentries⟩ := hall
        rw [hadd]
        refine .inl ⟨id :: ids, component', hub', rfl, Added.cons hdomain hfree hadded, ?_⟩
        rw [hentries, entries_register hfree]
        rw [List.append_assoc]
        rfl
      | inr hexhausted =>
        obtain ⟨e, component', hub', hadd, hcard, hbound⟩ := hexhausted
        rw [hadd]
        refine .inr ⟨e, component', hub', rfl, hcard, ?_⟩
        rw [used_register, Finset.card_insert_of_notMem hfree] at hbound
        rw [List.length_cons]
        omega

theorem exists_added {lights : List κ}
    (hcard : (component.used hub).card + lights.length < EntityId.lastSuffix)
    : ∃ ids component' hub', component.add view hub lights = (.ok ids, component', hub')
        ∧ Added view component hub lights ids component' hub' := by
  cases add_spec view component hub lights with
  | inl hall =>
    obtain ⟨ids, component', hub', hadd, hadded, _⟩ := hall
    exact ⟨ids, component', hub', hadd, hadded⟩
  | inr hexhausted =>
    obtain ⟨_, _, _, _, hlast, hbound⟩ := hexhausted
    omega

end Component

/-! ### Lights in use -/

structure Lighting (κ : Type) where
  component : Component κ := {}
  hub : Hub

namespace Lighting

def add (lighting : Lighting κ) (view : κ → View) (lights : List κ) : Lighting κ :=
  let (_, component, hub) := lighting.component.add view lighting.hub lights
  { component, hub }

inductive Step (lighting : Lighting κ) : Lighting κ → Prop where
  | add (view : κ → View) (lights : List κ) : Step lighting (lighting.add view lights)
  | turnOn {σ : Type} (control : Control σ κ) (call : ServiceCall) (world : σ) :
    Step lighting
      { lighting with hub := (lighting.component.turnOn control call world lighting.hub).2.2 }
  | turnOff {σ : Type} (control : Control σ κ) (call : ServiceCall) (world : σ) :
    Step lighting
      { lighting with hub := (lighting.component.turnOff control call world lighting.hub).2.2 }
  | others {writes : List Write} {later : Hub} (h : lighting.hub.Evolves writes later) :
    Step lighting { lighting with hub := later }

def Keyed (lighting : Lighting κ) : Prop :=
  ∀ key registered, lighting.component.lights.find? key = some registered →
    registered.entityId.text = key ∧ (lighting.hub.state? key).isSome = true

theorem Keyed.evolve {component : Component κ} {hub later : Hub} {writes : List Write}
    (h : Keyed { component, hub }) (hevolves : hub.Evolves writes later)
    : Keyed { component, hub := later } := by
  intro key registered hfind
  obtain ⟨hkey, hstate⟩ := h key registered hfind
  exact ⟨hkey, Hub.isSome_state?_evolves hevolves hstate⟩

theorem Keyed.register {component : Component κ} {hub : Hub} (h : Keyed { component, hub })
    (id : EntityId) (light : κ) (view : View)
    : Keyed { component := component.register id light, hub := hub.showLight id view } := by
  intro key registered hfind
  dsimp only at hfind ⊢
  unfold Component.register at hfind
  rw [Table.find?_insert] at hfind
  rw [Hub.state?_showLight]
  split at hfind
  . next hkey =>
    cases hfind
    rw [if_pos hkey]
    exact ⟨hkey, rfl⟩
  . next hkey =>
    rw [if_neg hkey]
    exact h key registered hfind

theorem Keyed.add {component : Component κ} {hub : Hub} (h : Keyed { component, hub })
    (view : κ → View) (lights : List κ)
    : Keyed (Lighting.add { component, hub } view lights) := by
  induction lights generalizing component hub with
  | nil => exact h
  | cons light lights ih =>
    unfold Lighting.add Component.add
    dsimp only
    split
    . exact h
    . next id hid => exact ih (h.register id light (view light))

theorem keyed_step {lighting next : Lighting κ} (h : lighting.Keyed)
    (hstep : Step lighting next)
    : next.Keyed := by
  cases hstep with
  | add view lights => exact Keyed.add h view lights
  | turnOn control call world =>
    obtain ⟨writes, hevolves⟩ :=
      (Component.carriedOut_serve lighting.component control.view TurnOnParams.ofJson
        (fun params light => control.turnOn light params) call world lighting.hub).evolves
    exact h.evolve hevolves
  | turnOff control call world =>
    obtain ⟨writes, hevolves⟩ :=
      (Component.carriedOut_serve lighting.component control.view TurnOffParams.ofJson
        (fun params light => control.turnOff light params) call world lighting.hub).evolves
    exact h.evolve hevolves
  | others hevolves => exact h.evolve hevolves

theorem keyed_run {hub : Hub} {lighting : Lighting κ}
    (h : Relation.ReflTransGen Step { hub } lighting)
    : lighting.Keyed := by
  induction h with
  | refl =>
    intro key registered hfind
    contradiction
  | tail _ hstep ih => exact keyed_step ih hstep

theorem added_and_keyed
    : (∀ (view : κ → View) (component : Component κ) (hub : Hub) (lights : List κ),
        (component.used hub).card + lights.length < 2 ^ 31 - 1 →
        ∃ ids component' hub', component.add view hub lights = (.ok ids, component', hub')
          ∧ Component.Added view component hub lights ids component' hub'
          ∧ (∀ key state, hub.state? key = some state → hub'.state? key = some state)
          ∧ (∀ key registered, component.lights.find? key = some registered →
            component'.lights.find? key = some registered))
      ∧ ∀ (hub : Hub) (lighting : Lighting κ), Relation.ReflTransGen Step { hub } lighting →
        ∀ key registered, lighting.component.lights.find? key = some registered →
          registered.entityId.text = key ∧ (lighting.hub.state? key).isSome = true := by
  constructor
  . intro view component hub lights hcard
    have hlast : 2 ^ 31 - 1 = EntityId.lastSuffix := by rfl
    rw [hlast] at hcard
    obtain ⟨ids, component', hub', hadd, hadded⟩ := Component.exists_added hcard
    exact ⟨ids, component', hub', hadd, hadded, fun _ _ => hadded.states,
      fun _ _ => hadded.lights⟩
  . intro hub lighting hrun
    exact keyed_run hrun

def sameSlugs : List View :=
  [{ name := "Desk Lamp", features := 0, on := false },
   { name := "desk - lamp!", features := 1, on := true, brightness := some 7 }]

theorem added_and_keyed_same_slugs
    : (({} : Component View).used .simulated).card + sameSlugs.length < 2 ^ 31 - 1
      ∧ ∃ ids component hub,
        ({} : Component View).add id .simulated sameSlugs = (.ok ids, component, hub)
        ∧ ids.map (·.text) = ["light.desk_lamp", "light.desk_lamp_2"]
        ∧ Component.Added id {} .simulated sameSlugs ids component hub
        ∧ Relation.ReflTransGen Step { hub := .simulated } { component, hub }
        ∧ ∀ key registered, component.lights.find? key = some registered →
          registered.entityId.text = key ∧ (hub.state? key).isSome = true := by
  have hused : ({} : Component View).used .simulated = ∅ := by rfl
  have hcard : (({} : Component View).used .simulated).card + sameSlugs.length < 2 ^ 31 - 1 := by
    rw [hused]
    decide
  refine ⟨hcard, ?_⟩
  obtain ⟨ids, component, hub, hadd, hadded, _⟩ :=
    added_and_keyed.1 id {} .simulated sameSlugs hcard
  have htexts : (({} : Component View).add id .simulated sameSlugs).1.map (·.map (·.text))
      = .ok ["light.desk_lamp", "light.desk_lamp_2"] := by
    rfl
  have hstep : Step { hub := .simulated } { component, hub } := by
    have hmade : Lighting.add { hub := .simulated } id sameSlugs = { component, hub } := by
      unfold Lighting.add
      rw [hadd]
    rw [← hmade]
    apply Step.add
  have hrun := Relation.ReflTransGen.single hstep
  rw [hadd] at htexts
  exact ⟨ids, component, hub, hadd, by simpa [Except.map] using htexts, hadded, hrun,
    added_and_keyed.2 .simulated _ hrun⟩

end Lighting

end HomeHub.Light
