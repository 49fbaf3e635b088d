import HomeHub.Bus

/-!
What a receiver has still to read. As long as it has lost nothing, its receptions take the unread
events one by one and in order, and events that are fired come behind them.
-/

namespace HomeHub.Bus

variable {α : Type} (decode : Json.Decoder α)

def readAs (event : Event Json) : Option (Event α) :=
  (decode event.data).toOption.map event.withData

def unread (bus : Bus) (receiver : Receiver) : List (Event α) :=
  ((bus.log receiver.eventType).toList.drop receiver.next).filterMap (readAs decode)

def Within (bus : Bus) (receiver : Receiver) : Prop :=
  receiver.next ≤ (bus.log receiver.eventType).size

theorem within_subscribe (bus : Bus) (eventType : String)
    : bus.Within (bus.subscribe eventType) := by
  exact Nat.le_refl _

@[simp]
theorem unread_subscribe (bus : Bus) (eventType : String)
    : bus.unread decode (bus.subscribe eventType) = [] := by
  unfold unread subscribe
  rw [List.drop_eq_nil_of_le (by simp)]
  rfl

theorem within_fire {bus : Bus} {receiver : Receiver} (event : Event Json)
    (h : bus.Within receiver)
    : (bus.fire event).Within receiver := by
  unfold Within at h ⊢
  rw [log_fire]
  split
  . simp only [Array.size_push]
    omega
  . exact h

theorem unread_fire {bus : Bus} {receiver : Receiver} (event : Event Json)
    (h : bus.Within receiver) (htype : event.eventType = receiver.eventType)
    : (bus.fire event).unread decode receiver
        =
      bus.unread decode receiver ++ (readAs decode event).toList := by
  unfold Within at h
  unfold unread
  rw [log_fire]
  rw [if_pos htype]
  rw [Array.toList_push]
  rw [List.drop_append_of_le_length (by simpa using h)]
  rw [List.filterMap_append]
  cases hread : readAs decode event <;> simp [hread]

theorem drop_eq_cons {log : Array (Event Json)} {next : Nat} {event : Event Json}
    (h : log[next]? = some event)
    : log.toList.drop next = event :: log.toList.drop (next + 1) := by
  obtain ⟨hlt, hevent⟩ := Array.getElem?_eq_some_iff.1 h
  rw [List.drop_eq_getElem_cons (by simpa using hlt)]
  rw [Array.getElem_toList]
  rw [hevent]

theorem readAs_of_ok {event : Event Json} {data : α} (h : decode event.data = .ok data)
    : readAs decode event = some (event.withData data) := by
  unfold readAs
  rw [h]
  rfl

theorem readAs_of_error {event : Event Json} {e : Decoding.Error}
    (h : decode event.data = .error e)
    : readAs decode event = none := by
  unfold readAs
  rw [h]
  rfl

theorem scan_of_nil {log : Array (Event Json)} {next : Nat} (left : Nat) (hnext : next ≤ log.size)
    (h : (log.toList.drop next).filterMap (readAs decode) = [])
    : ∃ last, receiveAs.scan decode log left next = (.idle, last) ∧ last ≤ log.size
        ∧ (log.toList.drop last).filterMap (readAs decode) = [] := by
  induction left generalizing next with
  | zero => exact ⟨next, rfl, hnext, h⟩
  | succ left ih =>
    unfold receiveAs.scan
    split
    . exact ⟨next, rfl, hnext, h⟩
    . next event hevent =>
      rw [drop_eq_cons hevent] at h
      split
      . next data hdata =>
        rw [List.filterMap_cons_some (readAs_of_ok decode hdata)] at h
        contradiction
      -- An event that cannot be read counts nothing, and the scan goes on behind it.
      . next e he =>
        rw [List.filterMap_cons_none (readAs_of_error decode he)] at h
        obtain ⟨hlt, _⟩ := Array.getElem?_eq_some_iff.1 hevent
        exact ih hlt h

theorem scan_of_cons {log : Array (Event Json)} {left next : Nat} {first : Event α}
    {rest : List (Event α)} (hleft : left = log.size - next)
    (h : (log.toList.drop next).filterMap (readAs decode) = first :: rest)
    : ∃ last, receiveAs.scan decode log left next = (.event first, last) ∧ last ≤ log.size
        ∧ (log.toList.drop last).filterMap (readAs decode) = rest := by
  induction left generalizing next with
  -- The fuel lasts to the end of the log, where nothing is unread.
  | zero =>
    rw [List.drop_eq_nil_of_le (by simp; omega)] at h
    contradiction
  | succ left ih =>
    have hlt : next < log.size := by omega
    unfold receiveAs.scan
    rw [Array.getElem?_eq_getElem hlt]
    dsimp only
    have hevent : log[next]? = some log[next] := Array.getElem?_eq_getElem hlt
    rw [drop_eq_cons hevent] at h
    split
    . next data hdata =>
      rw [List.filterMap_cons_some (readAs_of_ok decode hdata)] at h
      cases h
      exact ⟨next + 1, rfl, hlt, rfl⟩
    . next e he =>
      rw [List.filterMap_cons_none (readAs_of_error decode he)] at h
      exact ih (by omega) h

theorem receiveAs_of_unread_nil {bus : Bus} {receiver : Receiver} (hlost : bus.lost receiver = 0)
    (hwithin : bus.Within receiver) (h : bus.unread decode receiver = [])
    : ∃ next, bus.receiveAs decode receiver = (.idle, { receiver with next })
        ∧ bus.Within { receiver with next } ∧ bus.unread decode { receiver with next } = [] := by
  obtain ⟨last, hscan, hlast, hrest⟩ := scan_of_nil decode
    ((bus.log receiver.eventType).size - receiver.next) hwithin h
  refine ⟨last, ?_, hlast, hrest⟩
  unfold receiveAs
  simp [hlost, hscan]

theorem receiveAs_of_unread_cons {bus : Bus} {receiver : Receiver} {first : Event α}
    {rest : List (Event α)} (hlost : bus.lost receiver = 0)
    (h : bus.unread decode receiver = first :: rest)
    : ∃ next, bus.receiveAs decode receiver = (.event first, { receiver with next })
        ∧ bus.Within { receiver with next } ∧ bus.unread decode { receiver with next } = rest := by
  obtain ⟨last, hscan, hlast, hrest⟩ := scan_of_cons decode rfl h
  refine ⟨last, ?_, hlast, hrest⟩
  unfold receiveAs
  simp [hlost, hscan]

/-! ### Falling behind -/

def skipLost (bus : Bus) (receiver : Receiver) : Receiver :=
  { receiver with next := receiver.next + bus.lost receiver }

theorem receiveAs_of_lost {bus : Bus} {receiver : Receiver} (h : 0 < bus.lost receiver)
    : bus.receiveAs decode receiver = (.lagged (bus.lost receiver), bus.skipLost receiver) := by
  unfold receiveAs
  rw [if_pos h]
  rfl

theorem skipLost_of_lost_eq_zero {bus : Bus} {receiver : Receiver} (h : bus.lost receiver = 0)
    : bus.skipLost receiver = receiver := by
  unfold skipLost
  rw [h]
  rfl

theorem within_skipLost {bus : Bus} {receiver : Receiver} (h : bus.Within receiver)
    : bus.Within (bus.skipLost receiver) := by
  unfold Within at h ⊢
  unfold skipLost lost
  dsimp only
  omega

theorem exists_unread_eq_append (bus : Bus) (receiver : Receiver) (count : Nat)
    : ∃ passed, bus.unread decode receiver
        = passed ++ bus.unread decode { receiver with next := receiver.next + count } := by
  let log := (bus.log receiver.eventType).toList.drop receiver.next
  refine ⟨(log.take count).filterMap (readAs decode), ?_⟩
  unfold unread
  dsimp only
  rw [← List.drop_drop]
  rw [← List.filterMap_append]
  rw [List.take_append_drop]

theorem le_scan (log : Array (Event Json)) (left next : Nat)
    : next ≤ (receiveAs.scan decode log left next).2 := by
  induction left generalizing next with
  | zero => exact Nat.le_refl _
  | succ left ih =>
    unfold receiveAs.scan
    split
    . exact Nat.le_refl _
    . split
      . exact Nat.le_succ _
      . exact Nat.le_of_succ_le (ih (next + 1))

theorem next_le_receiveAs (bus : Bus) (receiver : Receiver)
    : receiver.next ≤ (bus.receiveAs decode receiver).2.next := by
  unfold receiveAs
  dsimp only
  split
  . exact Nat.le_add_right _ _
  . apply le_scan

theorem next_lt_receiveAs {bus : Bus} {receiver : Receiver}
    (h : receiver.next < (bus.log receiver.eventType).size)
    : receiver.next < (bus.receiveAs decode receiver).2.next := by
  unfold receiveAs
  dsimp only
  split
  . dsimp only
    omega
  . cases hleft : (bus.log receiver.eventType).size - receiver.next with
    | zero => omega
    | succ left =>
      unfold receiveAs.scan
      rw [Array.getElem?_eq_getElem h]
      dsimp only
      split
      . exact Nat.lt_succ_self _
      . exact le_scan decode _ left _

theorem eventType_receiveAs (bus : Bus) (receiver : Receiver)
    : (bus.receiveAs decode receiver).2.eventType = receiver.eventType := by
  unfold receiveAs
  dsimp only
  split
  . rfl
  . rfl

end HomeHub.Bus
