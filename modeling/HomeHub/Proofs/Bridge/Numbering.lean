import HomeHub.Proofs.Bridge.Mirror
import HomeHub.Proofs.EntityId.Order
import Mathlib.Data.List.Nodup

/-!
Which aid an entity has in a bridge: the entities that have an accessory are counted in their order,
from 2 on. Neither the order in which the states come nor any other entity matters.
-/

namespace HomeHub

theorem Hub.isSome_state?_iff {hub : Hub} {entityId : EntityId}
    : (hub.state? entityId.text).isSome = true
        ↔ ∃ state ∈ hub.states.values, state.entityId = entityId := by
  unfold state?
  rw [Option.isSome_iff_exists]
  constructor
  . intro h
    obtain ⟨state, hfind⟩ := h
    refine ⟨state, Table.mem_values_iff.2 ⟨_, hfind⟩, ?_⟩
    exact EntityId.text_injective (hub.keyed _ state hfind)
  . intro h
    obtain ⟨state, hstate, rfl⟩ := h
    obtain ⟨key, hfind⟩ := Table.mem_values_iff.1 hstate
    rw [← hub.keyed key state hfind] at hfind
    exact ⟨state, hfind⟩

theorem Hub.nodup_entityIds (hub : Hub)
    : (hub.states.values.map (·.entityId)).Nodup := by
  have hkeys : (hub.states.values.map (·.entityId)).map EntityId.text = hub.states.keys := by
    unfold Table.values Table.keys
    rw [List.map_map, List.map_map]
    apply List.map_congr_left
    intro entry hentry
    exact hub.keyed entry.1 entry.2 (Table.find?_eq_some_iff.2 hentry)
  have hdistinct : hub.states.keys.Nodup := hub.states.distinct
  rw [← hkeys] at hdistinct
  exact List.Nodup.of_map _ hdistinct

namespace Bridge

structure Config.Bridges (config : Config) (hub : Hub) (entityId : EntityId) : Prop where
  exposed : config.filter.exposes entityId = true
  supported : (typeFor? entityId.domain).isSome = true
  present : (hub.state? entityId.text).isSome = true

structure Numbers (bridge : Bridge) (ids : List EntityId) : Prop where
  entityIds : bridge.switches.map Switch.entityId = ids
  aids : bridge.switches.map Switch.aid = List.range' 2 ids.length
  found : ∀ aid switch,
    bridge.switch? aid = some switch ↔ switch ∈ bridge.switches ∧ switch.aid = aid
  written : ∀ aid switch, bridge.switch? aid = some switch → ∀ on,
    ∃ written, bridge.beginWrite aid onName (.bool on)
      = .ok (written, some (.move switch.entityId on))

theorem beginWrite_on {bridge : Bridge} {aid : Nat} {switch : Switch} {shown : Bool}
    (hfind : bridge.switch? aid = some switch) (hon : switch.accessory.IsOn shown) (on : Bool)
    : ∃ written, bridge.beginWrite aid onName (.bool on)
        = .ok (written, some (.move switch.entityId on)) := by
  obtain ⟨follower, hfollower, rfl⟩ := Option.map_eq_some_iff.1 hfind
  obtain ⟨written, hwrite, _⟩ := Switch.write_on hon on
  unfold beginWrite
  rw [hfollower]
  dsimp only
  rw [hwrite]
  exact ⟨_, rfl⟩

theorem numbers_of_entries {bridge : Bridge} {states : List State}
    {numbered : List (Nat × Switch)} {ids : List EntityId}
    (hentries : bridge.followers.entries
      = numbered.map fun (aid, switch) => (aid, ({ switch } : Follower)))
    (hids : numbered.map (·.2.entityId) = ids)
    (haids : numbered.map (·.1) = List.range' (bridgeAid + 1) ids.length)
    (hspec : ∀ entry ∈ numbered, entry.2.aid = entry.1
      ∧ Follower.Made states { switch := entry.2 })
    : bridge.Numbers ids := by
  have hswitches : bridge.switches = numbered.map Prod.snd := by
    unfold switches Table.values
    rw [hentries]
    simp [Function.comp_def]
  have hfound : ∀ aid switch, bridge.switch? aid = some switch ↔ (aid, switch) ∈ numbered := by
    intro aid switch
    rw [switch?_eq_some_iff, hentries]
    simp
  constructor
  . rw [hswitches, List.map_map]
    exact hids
  . rw [hswitches, List.map_map]
    have haid : numbered.map (Switch.aid ∘ Prod.snd) = numbered.map (·.1) := by
      apply List.map_congr_left
      intro entry hentry
      exact (hspec entry hentry).1
    rw [haid, haids]
    rfl
  . intro aid switch
    rw [hfound, hswitches, List.mem_map]
    constructor
    . intro h
      exact ⟨⟨_, h, rfl⟩, (hspec _ h).1⟩
    . intro h
      obtain ⟨⟨entry, hentry, rfl⟩, rfl⟩ := h
      rw [(hspec entry hentry).1]
      exact hentry
  . intro aid switch hswitch
    exact beginWrite_on hswitch (hspec _ ((hfound aid switch).1 hswitch)).2.isOn

/-! ### The order of the entities -/

theorem ascending_ordered (config : Config) {states : List State}
    (hdistinct : (states.map (·.entityId)).Nodup)
    : ((ordered config states).map (·.entityId)).Pairwise (compare · · = .lt) := by
  let le := fun a b : State => (compare a.entityId b.entityId).isLE
  have htrans : ∀ a b c : State, le a b = true → le b c = true → le a c = true := by
    intro a b c
    exact Std.TransCmp.isLE_trans
  have htotal : ∀ a b : State, (le a b || le b a) = true := by
    intro a b
    exact EntityId.isLE_total a.entityId b.entityId
  have hsorted : (ordered config states).Pairwise (le · · = true) := by
    apply List.pairwise_mergeSort htrans htotal
  have hnodup : ((ordered config states).map (·.entityId)).Nodup := by
    have hperm := (List.mergeSort_perm
      (states.filter fun state => config.filter.exposes state.entityId) le).map (·.entityId)
    rw [ordered, hperm.nodup_iff]
    exact hdistinct.sublist (List.filter_sublist.map _)
  unfold List.Nodup at hnodup
  rw [List.pairwise_map] at hnodup ⊢
  exact (hsorted.and hnodup).imp fun h => EntityId.compare_lt_of_isLE h.1 h.2

theorem mem_supported_ordered {config : Config} {hub : Hub} {states : List State}
    (hstates : states.Perm hub.states.values) {entityId : EntityId}
    : entityId ∈ supported (ordered config states) ↔ config.Bridges hub entityId := by
  have hpresent : (hub.state? entityId.text).isSome = true
      ↔ ∃ state ∈ states, state.entityId = entityId := by
    rw [Hub.isSome_state?_iff]
    simp only [hstates.mem_iff]
  unfold supported
  rw [List.mem_filter, List.mem_map]
  simp only [mem_ordered]
  constructor
  . intro h
    obtain ⟨⟨state, ⟨hstate, hexposed⟩, rfl⟩, hsupported⟩ := h
    exact ⟨hexposed, hsupported, hpresent.2 ⟨state, hstate, rfl⟩⟩
  . intro h
    obtain ⟨state, hstate, rfl⟩ := hpresent.1 h.present
    exact ⟨⟨state, ⟨hstate, h.exposed⟩, rfl⟩, h.supported⟩

theorem exists_numbers (config : Config) {hub : Hub} {states : List State}
    (hstates : states.Perm hub.states.values)
    : ∃ bridge ids, build builtinTypes config states = .ok bridge ∧ bridge.Numbers ids
        ∧ ids.Pairwise (compare · · = .lt)
        ∧ ∀ entityId, entityId ∈ ids ↔ config.Bridges hub entityId := by
  obtain ⟨bridge, numbered, hbuild, hentries, hids, haids, hspec⟩ := exists_build config states
  have hdistinct : (states.map (·.entityId)).Nodup := by
    rw [(hstates.map (·.entityId)).nodup_iff]
    exact hub.nodup_entityIds
  refine ⟨bridge, supported (ordered config states), hbuild,
    numbers_of_entries hentries hids haids hspec, ?_, ?_⟩
  . exact (ascending_ordered config hdistinct).filter _
  . intro entityId
    exact mem_supported_ordered hstates

/-! ### What the aids depend on -/

theorem Numbers.entityId_switch? {bridge : Bridge} {ids : List EntityId} (h : bridge.Numbers ids)
    {aid : Nat} {entityId : EntityId}
    : (bridge.switch? aid).map Switch.entityId = some entityId
        ↔ (aid, entityId) ∈ (List.range' 2 ids.length).zip ids := by
  have hzip : (List.range' 2 ids.length).zip ids
      = bridge.switches.map fun switch => (switch.aid, switch.entityId) := by
    rw [← h.aids]
    conv => lhs; arg 2; rw [← h.entityIds]
    exact List.zip_map' ..
  rw [hzip, Option.map_eq_some_iff, List.mem_map]
  simp only [h.found, Prod.mk.injEq, and_assoc]

theorem Numbers.unique {bridge other : Bridge} {ids : List EntityId} (h : bridge.Numbers ids)
    (hother : other.Numbers ids) (aid : Nat)
    : (other.switch? aid).map Switch.entityId = (bridge.switch? aid).map Switch.entityId := by
  apply Option.ext
  intro entityId
  rw [h.entityId_switch?, hother.entityId_switch?]

theorem bridges_write {config : Config} {w : Write}
    (h : config.filter.exposes w.entityId = false ∨ typeFor? w.entityId.domain = none) (hub : Hub)
    {entityId : EntityId}
    : config.Bridges (hub.write w).2 entityId ↔ config.Bridges hub entityId := by
  by_cases hentity : w.entityId = entityId
  . subst hentity
    have hnot : ∀ hub : Hub, ¬ config.Bridges hub w.entityId := by
      intro hub hbridges
      cases h with
      | inl hexposed =>
        rw [hbridges.exposed] at hexposed
        contradiction
      | inr hsupported =>
        have hsome := hbridges.supported
        rw [hsupported] at hsome
        contradiction
    exact iff_of_false (hnot _) (hnot _)
  . have hstate : (hub.write w).2.state? entityId.text = hub.state? entityId.text := by
      unfold Hub.write
      rw [Hub.state?_set]
      simp [hentity]
    constructor
    . intro hbridges
      exact ⟨hbridges.exposed, hbridges.supported, hstate ▸ hbridges.present⟩
    . intro hbridges
      exact ⟨hbridges.exposed, hbridges.supported, hstate.symm ▸ hbridges.present⟩

theorem aids_of_build (hub : Hub) (config : Config) {states : List State}
    (hstates : states.Perm hub.states.values)
    : ∃ bridge ids, build builtinTypes config states = .ok bridge ∧ bridge.Numbers ids
        ∧ ids.Pairwise (compare · · = .lt)
        ∧ (∀ entityId, entityId ∈ ids ↔ config.Bridges hub entityId)
        ∧ (∀ (another : Config) (later : Hub) (others : List State),
          others.Perm later.states.values →
          (∀ entityId, another.Bridges later entityId ↔ config.Bridges hub entityId) →
            ∃ other, build builtinTypes another others = .ok other ∧ other.Numbers ids
              ∧ ∀ aid, (other.switch? aid).map Switch.entityId
                = (bridge.switch? aid).map Switch.entityId)
        ∧ ∀ (w : Write) (others : List State), others.Perm (hub.write w).2.states.values →
          config.filter.exposes w.entityId = false ∨ typeFor? w.entityId.domain = none →
            ∃ other, build builtinTypes config others = .ok other ∧ other.Numbers ids
              ∧ ∀ aid, (other.switch? aid).map Switch.entityId
                = (bridge.switch? aid).map Switch.entityId := by
  obtain ⟨bridge, ids, hbuild, hnumbers, hascending, hmem⟩ := exists_numbers config hstates
  have hsame : ∀ (another : Config) (later : Hub) (others : List State),
      others.Perm later.states.values →
      (∀ entityId, another.Bridges later entityId ↔ config.Bridges hub entityId) →
        ∃ other, build builtinTypes another others = .ok other ∧ other.Numbers ids
          ∧ ∀ aid, (other.switch? aid).map Switch.entityId
            = (bridge.switch? aid).map Switch.entityId := by
    intro another later others hothers hbridges
    obtain ⟨other, ids', hother, hnumbers', hascending', hmem'⟩ := exists_numbers another hothers
    have hids : ids' = ids := by
      apply EntityId.eq_of_ascending hascending' hascending
      intro entityId
      rw [hmem, hmem', hbridges]
    rw [hids] at hnumbers'
    exact ⟨other, hother, hnumbers', hnumbers.unique hnumbers'⟩
  refine ⟨bridge, ids, hbuild, hnumbers, hascending, hmem, hsame, ?_⟩
  intro w others hothers haside
  exact hsame config _ others hothers fun _ => bridges_write haside hub

def away : EntityId :=
  .ofLiteral "input_boolean" "away"

def threeEntities : Hub :=
  [Mirror.kitchen, .desk, away].foldl
    (fun hub entityId => (hub.write ⟨entityId, State.off, [], { id := "first" }⟩).2) Hub.simulated

theorem entityIds_threeEntities
    : threeEntities.states.values.map (·.entityId) = [Mirror.kitchen, .desk, away] := by
  rfl

theorem bridges_threeEntities {entityId : EntityId}
    : Config.Bridges {} threeEntities entityId ↔ entityId ∈ [away, Mirror.kitchen] := by
  have hpresent : (threeEntities.state? entityId.text).isSome = true
      ↔ entityId ∈ [Mirror.kitchen, .desk, away] := by
    rw [Hub.isSome_state?_iff]
    rw [← entityIds_threeEntities]
    rw [List.mem_map]
  constructor
  . intro h
    have hmem := hpresent.1 h.present
    simp only [List.mem_cons, List.not_mem_nil, or_false] at hmem ⊢
    rcases hmem with rfl | rfl | rfl
    . simp
    -- There are no accessories for lights.
    . exact absurd h.supported (by decide)
    . simp
  . intro h
    have hmem : entityId ∈ [Mirror.kitchen, .desk, away] := by
      simp only [List.mem_cons, List.not_mem_nil, or_false] at h ⊢
      tauto
    refine ⟨by simp [Filter.exposes], ?_, hpresent.2 hmem⟩
    simp only [List.mem_cons, List.not_mem_nil, or_false] at h
    rcases h with rfl | rfl
    . decide
    . decide

theorem aids_of_build_reversed_states
    : threeEntities.states.values.reverse.Perm threeEntities.states.values
      ∧ ∃ bridge, build builtinTypes {} threeEntities.states.values.reverse = .ok bridge
        ∧ bridge.Numbers [away, Mirror.kitchen] := by
  have hstates := threeEntities.states.values.reverse_perm
  obtain ⟨bridge, ids, hbuild, hnumbers, hascending, hmem, _⟩ :=
    aids_of_build threeEntities {} hstates
  have hids : ids = [away, Mirror.kitchen] := by
    apply EntityId.eq_of_ascending hascending (by decide +kernel)
    intro entityId
    rw [hmem, bridges_threeEntities]
  rw [hids] at hnumbers
  exact ⟨hstates, bridge, hbuild, hnumbers⟩

end Bridge

end HomeHub
