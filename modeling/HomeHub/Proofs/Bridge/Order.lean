import HomeHub.Proofs.Bridge.Numbering
import HomeHub.Proofs.EntityId.TextOrder
import Mathlib.Data.List.Pairwise

/-!
The order of the aids of a bridge: it is the order of the entities, and so that of their texts, for
all types of accessories that a bridge can be built with.
-/

namespace HomeHub.Bridge

variable {types : Types} {config : Config} {states : List State}

namespace Numbered

def Agree (one two : Numbered) : Prop :=
  compare one.aid two.aid = compare one.state.entityId two.state.entityId

instance : Std.Symm Agree where
  symm one two h := calc
    compare two.aid one.aid
      = (compare one.aid two.aid).swap := Std.OrientedCmp.eq_swap
    _ = (compare one.state.entityId two.state.entityId).swap := congrArg Ordering.swap h
    _ = compare two.state.entityId one.state.entityId := Std.OrientedCmp.eq_swap.symm

theorem agree_self (one : Numbered) : one.Agree one := by
  have haid : compare one.aid one.aid = .eq := Std.ReflCmp.compare_self
  have hid : compare one.state.entityId one.state.entityId = .eq := Std.ReflCmp.compare_self
  exact haid.trans hid.symm

theorem agree_of_ascending {made : List Numbered} (haids : (made.map (·.aid)).Pairwise (· < ·))
    (hids : (made.map (·.state.entityId)).Pairwise (compare · · = .lt))
    : ∀ one ∈ made, ∀ two ∈ made, one.Agree two := by
  rw [List.pairwise_map] at haids hids
  have hpairs : made.Pairwise Agree := by
    apply (haids.and hids).imp
    intro one two h
    exact (Nat.compare_eq_lt.2 h.1).trans h.2.symm
  intro one hone two htwo
  exact List.Pairwise.forall_of_forall (fun one _ => one.agree_self) hpairs hone htwo

end Numbered

/-! ### The order of the texts -/

theorem map_text_mergeSort (ids : List EntityId)
    : (ids.mergeSort fun a b => (compare a b).isLE).map EntityId.text
        =
      (ids.map EntityId.text).mergeSort fun s t => (Text.compareBytes s t).isLE := by
  apply List.map_mergeSort
  intro a _ b _
  rw [EntityId.compare_eq_compareBytes_text]

theorem exists_consistsOf_compare {hub : Hub} (hstates : states.Perm hub.states.values)
    {bridge : Bridge} (h : build types config states = .ok bridge)
    : ∃ made : List Numbered, bridge.ConsistsOf types config made
        ∧ ∀ one ∈ made, ∀ two ∈ made, compare one.aid two.aid
          = Text.compareBytes one.state.entityId.text two.state.entityId.text := by
  obtain ⟨made, hmade, haids, hsub⟩ := exists_consistsOf h
  have hdistinct : (states.map (·.entityId)).Nodup := by
    rw [(hstates.map (·.entityId)).nodup_iff]
    exact hub.nodup_entityIds
  have hascending : (made.map (·.aid)).Pairwise (· < ·) := by
    rw [haids]
    exact List.pairwise_lt_range'
  have hids : (made.map (·.state.entityId)).Pairwise (compare · · = .lt) := by
    have hsub := hsub.map (·.entityId)
    rw [List.map_map] at hsub
    exact (ascending_ordered config hdistinct).sublist hsub
  refine ⟨made, hmade, ?_⟩
  intro one hone two htwo
  have hagree : compare one.aid two.aid = compare one.state.entityId two.state.entityId :=
    Numbered.agree_of_ascending hascending hids one hone two htwo
  rw [hagree]
  exact EntityId.compare_eq_compareBytes_text _ _

theorem orders_agree
    : (∀ a b : EntityId,
        compare a b
          = (Text.compareBytes a.domain b.domain).then (Text.compareBytes a.objectId b.objectId)
        ∧ compare a b = Text.compareBytes a.text b.text)
      ∧ (∀ ids : List EntityId,
        (ids.mergeSort fun a b => (compare a b).isLE).map EntityId.text
          = (ids.map EntityId.text).mergeSort fun s t => (Text.compareBytes s t).isLE)
      ∧ (∀ (types : Types) (config : Config) (hub : Hub) (states : List State) (bridge : Bridge),
        states.Perm hub.states.values → build types config states = .ok bridge →
          ∃ made : List Numbered, bridge.ConsistsOf types config made
            ∧ ∀ one ∈ made, ∀ two ∈ made, compare one.aid two.aid
              = Text.compareBytes one.state.entityId.text two.state.entityId.text)
      ∧ ∀ (config : Config) (hub : Hub) (states : List State) (bridge : Bridge),
        states.Perm hub.states.values → build builtinTypes config states = .ok bridge →
          ∀ aid other switch another,
            bridge.switch? aid = some switch → bridge.switch? other = some another →
              compare aid other
                = Text.compareBytes switch.entityId.text another.entityId.text := by
  refine ⟨?_, map_text_mergeSort, ?_, ?_⟩
  . intro a b
    exact ⟨a.compare_eq_compareBytes_parts b, a.compare_eq_compareBytes_text b⟩
  . intro types config hub states bridge hstates hbuild
    exact exists_consistsOf_compare hstates hbuild
  . intro config hub states bridge hstates hbuild aid other switch another hswitch hanother
    obtain ⟨made, hmade, hcompare⟩ := exists_consistsOf_compare hstates hbuild
    obtain ⟨one, hone, rfl, rfl⟩ := (hmade.found aid switch).1 hswitch
    obtain ⟨two, htwo, rfl, rfl⟩ := (hmade.found other another).1 hanother
    rw [(parts_of_accessoryFor (hmade.fits one hone)).1]
    rw [(parts_of_accessoryFor (hmade.fits two htwo)).1]
    exact hcompare one hone two htwo

theorem orders_agree_of_reversed_states
    : ∃ bridge switch another,
        threeEntities.states.values.reverse.Perm threeEntities.states.values
        ∧ build builtinTypes {} threeEntities.states.values.reverse = .ok bridge
        ∧ bridge.switch? 2 = some switch ∧ bridge.switch? 3 = some another
        ∧ switch.entityId = away ∧ another.entityId = Mirror.kitchen
        ∧ Text.compareBytes away.text Mirror.kitchen.text = compare 2 3 := by
  have hstates := threeEntities.states.values.reverse_perm
  obtain ⟨bridge, ids, hbuild, hnumbers, hascending, hmem⟩ := exists_numbers {} hstates
  have hids : ids = [away, Mirror.kitchen] := by
    apply EntityId.eq_of_ascending hascending (by decide +kernel)
    intro entityId
    rw [hmem, bridges_threeEntities]
  rw [hids] at hnumbers
  have hsecond : (bridge.switch? 2).map Switch.entityId = some away := by
    rw [hnumbers.entityId_switch?]
    exact List.mem_cons_self
  have hthird : (bridge.switch? 3).map Switch.entityId = some Mirror.kitchen := by
    rw [hnumbers.entityId_switch?]
    exact List.mem_cons_of_mem _ List.mem_cons_self
  obtain ⟨switch, hswitch, haway⟩ := Option.map_eq_some_iff.1 hsecond
  obtain ⟨another, hanother, hkitchen⟩ := Option.map_eq_some_iff.1 hthird
  have hcompare := orders_agree.2.2.2 {} threeEntities threeEntities.states.values.reverse bridge
    hstates hbuild 2 3 switch another hswitch hanother
  rw [haway, hkitchen] at hcompare
  exact ⟨bridge, switch, another, hstates, hbuild, hswitch, hanother, haway, hkitchen,
    hcompare.symm⟩

end HomeHub.Bridge
