import HomeHub.Proofs.Hub.Evolution

/-!
All that a receiver has still to hear: change by change, which entity changed and whether it was on
afterwards. A receiver whose log holds nothing but changes takes them one by one.
-/

namespace HomeHub

abbrev Tiding : Type := EntityId × Option Bool

def StateChange.tiding (change : StateChange) : Tiding :=
  (change.entityId, change.new.map State.isOn)

def Write.tiding (w : Write) : Tiding :=
  (w.entityId, some (w.value == State.on))

namespace Hub

/-- A receiver has some changes to hear of, and nothing else stands behind it in its log. -/
structure Awaits (hub : Hub) (receiver : Receiver) (tidings : List Tiding) : Prop where
  eventType : receiver.eventType = StateChange.eventType
  unread : (hub.bus.unread StateChange.ofJson receiver).map (·.data.tiding) = tidings
  size : (hub.bus.log receiver.eventType).size = receiver.next + tidings.length

variable {hub : Hub} {receiver : Receiver} {tidings : List Tiding}

theorem awaits_subscribe (hub : Hub)
    : hub.Awaits (hub.bus.subscribe StateChange.eventType) [] := by
  refine ⟨rfl, ?_, rfl⟩
  rw [Bus.unread_subscribe]
  rfl

theorem awaits_nil (htype : receiver.eventType = StateChange.eventType)
    (hwithin : hub.bus.Within receiver)
    (hdrained : (hub.bus.log receiver.eventType).size - receiver.next = 0)
    : hub.Awaits receiver [] := by
  unfold Bus.Within at hwithin
  refine ⟨htype, ?_, ?_⟩
  . unfold Bus.unread
    rw [List.drop_eq_nil_of_le (by rw [Array.length_toList]; omega)]
    rfl
  . dsimp only [List.length]
    omega

namespace Awaits

theorem within (h : hub.Awaits receiver tidings) : hub.bus.Within receiver := by
  unfold Bus.Within
  rw [h.size]
  exact Nat.le_add_right _ _

theorem lost_eq_zero_iff (h : hub.Awaits receiver tidings)
    : hub.bus.lost receiver = 0 ↔ tidings.length ≤ Bus.capacity := by
  unfold Bus.lost
  rw [h.size]
  omega

theorem write (h : hub.Awaits receiver tidings) (w : Write)
    : (hub.write w).2.Awaits receiver (tidings ++ [w.tiding]) := by
  have hisOn := isOn_write hub w
  unfold Hub.write at hisOn ⊢
  have htype : (hub.announcement w.entityId w.value w.attributes w.context).eventType
      = receiver.eventType := h.eventType.symm
  constructor
  . exact h.eventType
  . rw [bus_set]
    rw [Bus.unread_fire _ _ h.within htype]
    rw [readAs_announcement]
    rw [List.map_append, h.unread]
    simp [StateChange.tiding, Write.tiding, hisOn]
  . rw [bus_set, Bus.log_fire]
    rw [if_pos htype]
    rw [Array.size_push, h.size]
    rw [List.length_append, List.length_singleton]
    rw [Nat.add_assoc]

theorem receive_nil (h : hub.Awaits receiver [])
    : ∃ next, hub.bus.receiveAs StateChange.ofJson receiver = (.idle, next)
        ∧ hub.Awaits next [] := by
  have hlost : hub.bus.lost receiver = 0 := h.lost_eq_zero_iff.2 (Nat.zero_le _)
  obtain ⟨next, hreceive, hwithin, hrest⟩ := Bus.receiveAs_of_unread_nil StateChange.ofJson hlost
    h.within (List.map_eq_nil_iff.1 h.unread)
  refine ⟨_, hreceive, awaits_nil h.eventType hwithin ?_⟩
  have hle := hub.bus.next_le_receiveAs StateChange.ofJson receiver
  have hsize := h.size
  rw [hreceive] at hle
  dsimp only [List.length] at hle hsize ⊢
  omega

theorem receive_cons {first : Tiding} (h : hub.Awaits receiver (first :: tidings))
    (hlost : hub.bus.lost receiver = 0)
    : ∃ event next, hub.bus.receiveAs StateChange.ofJson receiver = (.event event, next)
        ∧ event.data.tiding = first ∧ hub.Awaits next tidings := by
  obtain ⟨event, rest, hunread, hfirst, htidings⟩ := List.map_eq_cons_iff.1 h.unread
  obtain ⟨next, hreceive, hwithin, hrest⟩ := Bus.receiveAs_of_unread_cons StateChange.ofJson hlost
    hunread
  refine ⟨event, _, hreceive, hfirst, h.eventType, ?_, ?_⟩
  . rw [hrest]
    exact htidings
  -- The receiver goes on by one at least, and as many events as are left fit behind it.
  . have hsize := h.size
    have hlt : receiver.next < (hub.bus.log receiver.eventType).size := by
      rw [hsize, List.length_cons]
      omega
    have hnext := Bus.next_lt_receiveAs StateChange.ofJson hlt
    rw [hreceive] at hnext
    have hleft : tidings.length ≤ (hub.bus.log receiver.eventType).size - next := by
      rw [← htidings, List.length_map, ← hrest]
      unfold Bus.unread
      refine Nat.le_trans (List.length_filterMap_le _ _) (Nat.le_of_eq ?_)
      rw [List.length_drop, Array.length_toList]
    unfold Bus.Within at hwithin
    rw [List.length_cons] at hsize
    dsimp only at hnext hwithin ⊢
    omega

end Awaits

end Hub

end HomeHub
