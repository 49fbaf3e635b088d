import HomeHub.Proofs.Bus.Unread

/-!
The backlog of a receiver: all events that it has still before it, readable or not. What a reception
yields and what it leaves are told by the backlog alone.
-/

namespace HomeHub.Bus

variable {α : Type}

def backlog (bus : Bus) (receiver : Receiver) : List (Event Json) :=
  (bus.log receiver.eventType).toList.drop receiver.next

def takeFirst (decode : Json.Decoder α) : List (Event Json) → Reception α × List (Event Json)
  | [] => (.idle, [])
  | event :: rest =>
    match decode event.data with
    | .ok data => (.event (event.withData data), rest)
    | .error _ => takeFirst decode rest

def take (decode : Json.Decoder α) (backlog : List (Event Json))
    : Reception α × List (Event Json) :=
  if 1024 < backlog.length then
    (.lagged (backlog.length - 1024), backlog.drop (backlog.length - 1024))
  else takeFirst decode backlog

theorem lost_eq (bus : Bus) (receiver : Receiver)
    : bus.lost receiver = (bus.backlog receiver).length - 1024 := by
  have hlength : (bus.backlog receiver).length
      = (bus.log receiver.eventType).size - receiver.next := by
    unfold backlog
    rw [List.length_drop, Array.length_toList]
  unfold lost capacity
  omega

theorem backlog_add (bus : Bus) (receiver : Receiver) (count : Nat)
    : bus.backlog { receiver with next := receiver.next + count }
        =
      (bus.backlog receiver).drop count := by
  unfold backlog
  rw [List.drop_drop]

theorem receive_of_lost {bus : Bus} {receiver : Receiver} (h : 0 < bus.lost receiver)
    : bus.receive receiver = (.lagged (bus.lost receiver), bus.skipLost receiver) := by
  unfold receive
  rw [if_pos h]
  rfl

theorem receive_of_backlog_nil {bus : Bus} {receiver : Receiver} (h : bus.backlog receiver = [])
    : bus.receive receiver = (.idle, receiver) := by
  have hlost : bus.lost receiver = 0 := by
    rw [lost_eq, h]
    rfl
  have hend : (bus.log receiver.eventType)[receiver.next]? = none := by
    unfold backlog at h
    rw [List.drop_eq_nil_iff, Array.length_toList] at h
    rw [Array.getElem?_eq_none h]
  unfold receive
  simp [hlost, hend]

theorem receive_of_backlog_cons {bus : Bus} {receiver : Receiver} {event : Event Json}
    {rest : List (Event Json)} (hlost : bus.lost receiver = 0)
    (h : bus.backlog receiver = event :: rest)
    : bus.receive receiver = (.event event, { receiver with next := receiver.next + 1 }) := by
  have hnext : (bus.log receiver.eventType)[receiver.next]? = some event := by
    have hhead := congrArg List.head? h
    unfold backlog at hhead
    rw [List.head?_drop] at hhead
    simpa using hhead
  unfold receive
  simp [hlost, hnext]

theorem receiveAs_eq (decode : Json.Decoder α) (bus : Bus) (receiver : Receiver)
    : bus.receiveAs decode receiver
        =
      match bus.receive receiver with
      | (.event event, next) =>
        match decode event.data with
        | .ok data => (.event (event.withData data), next)
        | .error _ => bus.receiveAs decode next
      | (.lagged count, next) => (.lagged count, next)
      | (.idle, next) => (.idle, next) := by
  by_cases hlost : 0 < bus.lost receiver
  . rw [receive_of_lost hlost]
    exact receiveAs_of_lost decode hlost
  . have hlost : bus.lost receiver = 0 := Nat.eq_zero_of_not_pos hlost
    unfold receive receiveAs
    simp only [hlost, Nat.lt_irrefl, if_false]
    cases hnext : (bus.log receiver.eventType)[receiver.next]? with
    | none =>
      cases (bus.log receiver.eventType).size - receiver.next with
      | zero => rfl
      | succ left => simp [receiveAs.scan, hnext]
    | some event =>
      obtain ⟨hlt, _⟩ := Array.getElem?_eq_some_iff.1 hnext
      obtain ⟨left, hleft⟩ : ∃ left, (bus.log receiver.eventType).size - receiver.next = left + 1 :=
        ⟨_, (Nat.succ_pred (by omega)).symm⟩
      rw [hleft]
      dsimp only [receiveAs.scan]
      rw [hnext]
      dsimp only
      cases decode event.data with
      | ok data => rfl
      | error e =>
        -- One event less is left, and still nothing is lost.
        have hlost' : bus.lost { receiver with next := receiver.next + 1 } = 0 := by
          unfold lost at hlost ⊢
          dsimp only
          omega
        have hleft' : (bus.log receiver.eventType).size - (receiver.next + 1) = left := by
          omega
        simp [hlost', hleft']

theorem receive_eq_receiveAs (bus : Bus) (receiver : Receiver)
    : bus.receive receiver = bus.receiveAs .ok receiver := by
  rw [receiveAs_eq]
  cases bus.receive receiver with
  | mk reception next =>
    cases reception with
    | event event => rfl
    | lagged count => rfl
    | idle => rfl

theorem within_of_backlog_cons {bus : Bus} {receiver : Receiver} {event : Event Json}
    {rest : List (Event Json)} (h : bus.backlog receiver = event :: rest)
    : bus.Within { receiver with next := receiver.next + 1 } := by
  have hlength := congrArg List.length h
  unfold backlog at hlength
  rw [List.length_drop, Array.length_toList, List.length_cons] at hlength
  unfold Within
  dsimp only
  omega

theorem receiveAs_takeFirst (decode : Json.Decoder α) {bus : Bus} {receiver : Receiver}
    (hlost : bus.lost receiver = 0) (hwithin : bus.Within receiver)
    : ∃ next, bus.receiveAs decode receiver
          = ((takeFirst decode (bus.backlog receiver)).1, { receiver with next })
        ∧ bus.backlog { receiver with next } = (takeFirst decode (bus.backlog receiver)).2
        ∧ bus.Within { receiver with next } := by
  induction hbacklog : bus.backlog receiver generalizing receiver with
  | nil =>
    refine ⟨receiver.next, ?_, hbacklog, hwithin⟩
    rw [receiveAs_eq, receive_of_backlog_nil hbacklog]
    rfl
  | cons event rest ih =>
    have hrest : bus.backlog { receiver with next := receiver.next + 1 } = rest := by
      rw [backlog_add, hbacklog]
      rfl
    rw [receiveAs_eq, receive_of_backlog_cons hlost hbacklog]
    unfold takeFirst
    dsimp only
    cases decode event.data with
    | ok data => exact ⟨_, rfl, hrest, within_of_backlog_cons hbacklog⟩
    | error e =>
      have hlost' : bus.lost { receiver with next := receiver.next + 1 } = 0 := by
        unfold lost at hlost ⊢
        dsimp only
        omega
      exact ih hlost' (within_of_backlog_cons hbacklog) hrest

theorem receiveAs_take (decode : Json.Decoder α) {bus : Bus} {receiver : Receiver}
    (hwithin : bus.Within receiver)
    : ∃ next, bus.receiveAs decode receiver
          = ((take decode (bus.backlog receiver)).1, { receiver with next })
        ∧ bus.backlog { receiver with next } = (take decode (bus.backlog receiver)).2
        ∧ bus.Within { receiver with next } := by
  have hlost := lost_eq bus receiver
  unfold take
  split
  . next hlong =>
    rw [← hlost]
    refine ⟨receiver.next + bus.lost receiver, ?_, ?_, within_skipLost hwithin⟩
    . exact receiveAs_of_lost decode (by omega)
    . apply backlog_add
  . next hshort => exact receiveAs_takeFirst decode (by omega) hwithin

theorem backlog_fire {bus : Bus} {receiver : Receiver} (h : bus.Within receiver)
    (event : Event Json)
    : (bus.fire event).backlog receiver
        =
      if event.eventType = receiver.eventType then bus.backlog receiver ++ [event]
      else bus.backlog receiver := by
  unfold backlog
  rw [log_fire]
  split
  . rw [Array.toList_push]
    rw [List.drop_append_of_le_length (by rwa [Array.length_toList])]
  . rfl

theorem backlog_subscribe (bus : Bus) (eventType : String)
    : bus.backlog (bus.subscribe eventType) = [] := by
  apply List.drop_eq_nil_of_le
  simp [subscribe]

end HomeHub.Bus
