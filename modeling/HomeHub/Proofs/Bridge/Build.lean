import HomeHub.Bridge.Basic
import HomeHub.Proofs.Bridge.Switch
import HomeHub.Proofs.Hub.Evolution
import HomeHub.Proofs.Table

/-!
What is in a bridge that has been built and started: switches for entities that have states, each of
them with a receiver of its own.
-/

namespace HomeHub.Bridge

structure Follower.Made (states : List State) (follower : Follower) : Prop where
  receiver : follower.receiver = none
  awaiting : follower.switch.awaiting = false
  isOn : follower.switch.accessory.IsOn false
  entity : ∃ state ∈ states, follower.switch.entityId = state.entityId
  supported : typeFor? follower.switch.entityId.domain = some switchService

theorem typeFor?_eq_some {domain type : String} (h : typeFor? domain = some type)
    : type = switchService := by
  unfold typeFor? at h
  split at h
  . cases h
    rfl
  . contradiction

theorem accessoryFor_of_unsupported {state : State}
    (h : (typeFor? state.entityId.domain).isSome = false) (config : Config) (aid : Nat)
    : accessoryFor builtinTypes config state aid = .ok none := by
  rw [Option.isSome_eq_false_iff, Option.isNone_iff_eq_none] at h
  unfold accessoryFor
  rw [h]

theorem accessoryFor_of_supported {state : State}
    (h : (typeFor? state.entityId.domain).isSome = true) (config : Config) (aid : Nat)
    : ∃ switch, accessoryFor builtinTypes config state aid = .ok (some switch)
        ∧ switch.entityId = state.entityId ∧ switch.aid = aid
        ∧ Follower.Made [state] { switch } := by
  obtain ⟨type, htype⟩ := Option.isSome_iff_exists.1 h
  obtain rfl := typeFor?_eq_some htype
  obtain ⟨switch, hnew, hentity, haid, hawaiting, hon⟩ :=
    Switch.exists_new state.entityId (displayName state config) aid
  have hfactory : builtinTypes.find? switchService = some Switch.new := by rfl
  refine ⟨switch, ?_, hentity, haid, rfl, hawaiting, hon, ⟨state, by simp, hentity⟩, ?_⟩
  . unfold accessoryFor
    rw [htype]
    dsimp only
    rw [hfactory]
    dsimp only
    rw [hnew]
    rfl
  . rw [hentity]
    exact htype

theorem parts_of_accessoryFor {config : Config} {state : State} {aid : Nat} {switch : Switch}
    (h : accessoryFor builtinTypes config state aid = .ok (some switch))
    : switch.entityId = state.entityId ∧ switch.aid = aid := by
  cases hsupported : (typeFor? state.entityId.domain).isSome with
  | false =>
    rw [accessoryFor_of_unsupported hsupported] at h
    cases h
  | true =>
    obtain ⟨made, hmade, hentity, haid, _⟩ := accessoryFor_of_supported hsupported config aid
    rw [h] at hmade
    cases hmade
    exact ⟨hentity, haid⟩

theorem Follower.Made.mono {states more : List State} {follower : Follower}
    (h : follower.Made states) (hsub : ∀ state ∈ states, state ∈ more)
    : follower.Made more := by
  obtain ⟨state, hstate, hentity⟩ := h.entity
  exact ⟨h.receiver, h.awaiting, h.isOn, ⟨state, hsub state hstate, hentity⟩, h.supported⟩

def supported (states : List State) : List EntityId :=
  (states.map (·.entityId)).filter fun entityId => (typeFor? entityId.domain).isSome

theorem exists_number (config : Config) (states : List State) (aid : Nat)
    : ∃ numbered, number builtinTypes config states aid = .ok numbered
        ∧ numbered.map (·.2.entityId) = supported states
        ∧ numbered.map (·.1) = List.range' aid (supported states).length
        ∧ ∀ entry ∈ numbered, entry.2.aid = entry.1
          ∧ Follower.Made states { switch := entry.2 } := by
  induction states generalizing aid with
  | nil => exact ⟨[], rfl, rfl, rfl, by simp⟩
  | cons state rest ih =>
    have hsub : ∀ other ∈ rest, other ∈ state :: rest := by
      intro other hother
      exact List.mem_cons_of_mem _ hother
    unfold number
    cases hsupported : (typeFor? state.entityId.domain).isSome with
    | false =>
      have hskipped : supported (state :: rest) = supported rest := by
        unfold supported
        rw [List.map_cons]
        rw [List.filter_cons_of_neg (by simp [hsupported])]
      -- An entity that is passed over takes no aid.
      obtain ⟨others, hothers, hids, haids, hspec⟩ := ih aid
      rw [accessoryFor_of_unsupported hsupported]
      rw [hskipped]
      refine ⟨others, hothers, hids, haids, ?_⟩
      intro entry hentry
      exact ⟨(hspec entry hentry).1, (hspec entry hentry).2.mono hsub⟩
    | true =>
      have hcounted : supported (state :: rest) = state.entityId :: supported rest := by
        unfold supported
        rw [List.map_cons]
        rw [List.filter_cons_of_pos (by simpa using hsupported)]
      obtain ⟨switch, haccessory, hentity, haid, hmade⟩ :=
        accessoryFor_of_supported hsupported config aid
      obtain ⟨others, hothers, hids, haids, hspec⟩ := ih (aid + 1)
      rw [haccessory]
      simp only [bind, Except.bind, pure, Except.pure, hothers]
      refine ⟨_, rfl, ?_, ?_, ?_⟩
      . rw [List.map_cons, hids, hentity, hcounted]
      . rw [List.map_cons, haids, hcounted]
        rw [List.length_cons, List.range'_succ]
      . intro entry hentry
        cases hentry with
        | head => exact ⟨haid, hmade.mono (by simp)⟩
        | tail _ hentry =>
          exact ⟨(hspec entry hentry).1, (hspec entry hentry).2.mono hsub⟩

def ordered (config : Config) (states : List State) : List State :=
  (states.filter fun state => config.filter.exposes state.entityId).mergeSort
    fun a b => (compare a.entityId b.entityId).isLE

theorem mem_ordered {config : Config} {states : List State} {state : State}
    : state ∈ ordered config states
        ↔ state ∈ states ∧ config.filter.exposes state.entityId = true := by
  unfold ordered
  rw [List.mem_mergeSort, List.mem_filter]

theorem exists_build (config : Config) (states : List State)
    : ∃ (bridge : Bridge) (numbered : List (Nat × Switch)),
        build builtinTypes config states = .ok bridge
        ∧ bridge.followers.entries
          = numbered.map (fun (aid, switch) => (aid, ({ switch } : Follower)))
        ∧ numbered.map (·.2.entityId) = supported (ordered config states)
        ∧ numbered.map (·.1)
          = List.range' (bridgeAid + 1) (supported (ordered config states)).length
        ∧ ∀ entry ∈ numbered, entry.2.aid = entry.1
          ∧ Follower.Made states { switch := entry.2 } := by
  obtain ⟨numbered, hnumber, hids, haids, hspec⟩ :=
    exists_number config (ordered config states) (bridgeAid + 1)
  have hdistinct : ((∅ : Table Nat Follower).keys ++ numbered.map Prod.fst).Nodup := by
    have hkeys : (∅ : Table Nat Follower).keys = [] := by rfl
    rw [hkeys, List.nil_append, haids]
    exact List.nodup_range'
  have hentries :=
    Table.entries_foldl_insert (fun switch => ({ switch } : Follower)) hdistinct
  refine ⟨{ config, followers := _ }, numbered, ?_, hentries, hids, haids, ?_⟩
  . unfold build
    unfold ordered at hnumber
    dsimp only
    rw [hnumber]
    rfl
  . intro entry hentry
    refine ⟨(hspec entry hentry).1, (hspec entry hentry).2.mono ?_⟩
    intro state hstate
    exact (mem_ordered.1 hstate).1

structure Numbered where
  aid : Nat
  state : State
  switch : Switch

theorem exists_numbered {types : Types} {config : Config} {states : List State} {aid : Nat}
    {numbered : List (Nat × Switch)} (h : number types config states aid = .ok numbered)
    : ∃ made : List Numbered, numbered = made.map (fun entry => (entry.aid, entry.switch))
        ∧ made.map (·.aid) = List.range' aid made.length
        ∧ (made.map (·.state)).Sublist states
        ∧ ∀ entry ∈ made,
          accessoryFor types config entry.state entry.aid = .ok (some entry.switch) := by
  induction states generalizing aid numbered with
  | nil =>
    cases h
    exact ⟨[], rfl, rfl, List.Sublist.refl _, by simp⟩
  | cons state rest ih =>
    unfold number at h
    cases haccessory : accessoryFor types config state aid with
    | error e =>
      rw [haccessory] at h
      contradiction
    | ok accessory =>
      rw [haccessory] at h
      cases accessory with
      | none =>
        obtain ⟨made, hmade, haids, hstates, hfits⟩ := ih h
        exact ⟨made, hmade, haids, hstates.cons state, hfits⟩
      | some switch =>
        dsimp only [bind, Except.bind] at h
        cases hrest : number types config rest (aid + 1) with
        | error e =>
          rw [hrest] at h
          contradiction
        | ok others =>
          rw [hrest] at h
          cases h
          obtain ⟨made, hmade, haids, hstates, hfits⟩ := ih hrest
          refine ⟨⟨aid, state, switch⟩ :: made, ?_, ?_, hstates.cons_cons state, ?_⟩
          . rw [List.map_cons, hmade]
          . rw [List.map_cons, haids, List.length_cons, List.range'_succ]
          . intro entry hentry
            cases hentry with
            | head => exact haccessory
            | tail _ hentry => exact hfits entry hentry

theorem switch?_eq_some_iff {bridge : Bridge} {aid : Nat} {switch : Switch}
    : bridge.switch? aid = some switch
        ↔ ∃ follower, (aid, follower) ∈ bridge.followers.entries ∧ follower.switch = switch := by
  unfold switch?
  rw [Option.map_eq_some_iff]
  simp only [Table.find?_eq_some_iff]

structure ConsistsOf (types : Types) (config : Config) (bridge : Bridge) (made : List Numbered) :
    Prop where
  fits : ∀ entry ∈ made,
    accessoryFor types config entry.state entry.aid = .ok (some entry.switch)
  found : ∀ aid switch,
    bridge.switch? aid = some switch ↔ ∃ entry ∈ made, entry.aid = aid ∧ entry.switch = switch

theorem exists_consistsOf {types : Types} {config : Config} {states : List State} {bridge : Bridge}
    (h : build types config states = .ok bridge)
    : ∃ made : List Numbered, bridge.ConsistsOf types config made
        ∧ made.map (·.aid) = List.range' (bridgeAid + 1) made.length
        ∧ (made.map (·.state)).Sublist (ordered config states) := by
  unfold build at h
  dsimp only [bind, Except.bind] at h
  split at h
  . contradiction
  . next numbered hnumber =>
    cases h
    obtain ⟨made, rfl, haids, hstates, hfits⟩ := exists_numbered hnumber
    have hdistinct : ((∅ : Table Nat Follower).keys
        ++ (made.map fun entry => (entry.aid, entry.switch)).map Prod.fst).Nodup := by
      have hkeys : (∅ : Table Nat Follower).keys = [] := by rfl
      rw [hkeys, List.nil_append, List.map_map]
      have haid : (Prod.fst ∘ fun entry : Numbered => (entry.aid, entry.switch)) = (·.aid) := by
        rfl
      rw [haid, haids]
      exact List.nodup_range'
    have hentries :=
      Table.entries_foldl_insert (fun switch => ({ switch } : Follower)) hdistinct
    refine ⟨made, ⟨hfits, ?_⟩, haids, hstates⟩
    intro aid switch
    have hempty : (∅ : Table Nat Follower).entries = [] := by rfl
    rw [switch?_eq_some_iff]
    dsimp only
    rw [hentries, hempty, List.nil_append, List.map_map]
    constructor
    . intro h
      obtain ⟨follower, hfollower, rfl⟩ := h
      obtain ⟨entry, hentry, heq⟩ := List.mem_map.1 hfollower
      cases heq
      exact ⟨entry, hentry, rfl, rfl⟩
    . intro h
      obtain ⟨entry, hentry, rfl, rfl⟩ := h
      exact ⟨_, List.mem_map_of_mem hentry, rfl⟩

theorem made_of_build {config : Config} {states : List State} {bridge : Bridge}
    (h : build builtinTypes config states = .ok bridge) {aid : Nat} {follower : Follower}
    (hfind : bridge.followers.find? aid = some follower)
    : follower.Made states := by
  obtain ⟨built, numbered, hbuild, hentries, _, _, hspec⟩ := exists_build config states
  rw [h] at hbuild
  cases hbuild
  rw [Table.find?_eq_some_iff, hentries, List.mem_map] at hfind
  obtain ⟨entry, hentry, hfollower⟩ := hfind
  cases hfollower
  exact (hspec entry hentry).2

theorem Follower.Made.isSome_state? {states : List State} {follower : Follower}
    (h : follower.Made states) {hub : Hub} (hstates : states.Perm hub.states.values)
    : (hub.state? follower.switch.entityId.text).isSome = true := by
  obtain ⟨state, hstate, hentity⟩ := h.entity
  obtain ⟨key, hkey⟩ := Table.mem_values_iff.1 (hstates.mem_iff.1 hstate)
  rw [hentity]
  rw [hub.keyed key state hkey]
  unfold Hub.state?
  rw [hkey]
  rfl

theorem Follower.pending_of_drained {hub : Hub} {follower : Follower}
    (h : follower.unread hub.bus = 0) {receiver : Receiver}
    (hreceiver : follower.receiver = some receiver) (entityId : EntityId)
    : hub.pending receiver entityId = [] := by
  unfold unread at h
  rw [hreceiver] at h
  dsimp only at h
  unfold Hub.pending Bus.unread
  rw [List.drop_eq_nil_of_le (by rw [Array.length_toList]; omega)]
  rfl

theorem find?_mapFollowers (bridge : Bridge) (f : Follower → Follower) (aid : Nat)
    : (bridge.mapFollowers f).followers.find? aid = (bridge.followers.find? aid).map f := by
  apply Table.lookup_map

theorem start_of_build {config : Config} {states : List State} {bridge : Bridge}
    (h : build builtinTypes config states = .ok bridge) (hub : Hub)
    : bridge.start hub = bridge.mapFollowers (Follower.follow hub) := by
  have hrunning : bridge.isRunning = false := by
    unfold isRunning
    rw [List.any_eq_false]
    intro follower hfollower
    obtain ⟨aid, hfind⟩ := Table.mem_values_iff.1 hfollower
    rw [(made_of_build h hfind).receiver]
    simp
  unfold start
  rw [hrunning]
  rfl

end HomeHub.Bridge
