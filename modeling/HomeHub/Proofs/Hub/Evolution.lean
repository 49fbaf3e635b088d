import HomeHub.Proofs.Hub.Write

/-!
A hub that others use, and what a receiver has still to read of one entity: whether it was on,
change by change. The last of these values is that of the present state.
-/

namespace HomeHub

def Write.values (entityId : EntityId) (writes : List Write) : List Bool :=
  (writes.filter (·.entityId = entityId)).map fun w => w.value == State.on

namespace Hub

/--
A hub becomes another one by some writes, in order; what else happens leaves the states and the log
of their changes alone.
-/
inductive Evolves (hub : Hub) : List Write → Hub → Prop where
  | refl : Evolves hub [] hub
  | write {writes : List Write} {later : Hub} (h : Evolves hub writes later) (w : Write) :
    Evolves hub (writes ++ [w]) (later.write w).2
  | aside {writes : List Write} {later other : Hub} (h : Evolves hub writes later)
    (hstates : other.states = later.states)
    (hlog : other.bus.log StateChange.eventType = later.bus.log StateChange.eventType) :
    Evolves hub writes other

theorem Evolves.trans {hub middle last : Hub} {writes more : List Write}
    (h : hub.Evolves writes middle) (hmore : middle.Evolves more last)
    : hub.Evolves (writes ++ more) last := by
  induction hmore with
  | refl => simpa using h
  | write _ w ih =>
    rw [← List.append_assoc]
    exact ih.write w
  | aside _ hstates hlog ih => exact ih.aside hstates hlog

theorem evolves_newContext (hub : Hub) : hub.Evolves [] hub.newContext.2 := by
  exact Evolves.refl.aside rfl rfl

theorem evolves_write (hub : Hub) (w : Write) : hub.Evolves [w] (hub.write w).2 := by
  exact Evolves.refl.write w

def pending (hub : Hub) (receiver : Receiver) (entityId : EntityId) : List Bool :=
  (hub.bus.unread StateChange.ofJson receiver).filterMap fun event =>
    if event.data.entityId = entityId then event.data.new.map State.isOn else none

/-- A receiver has changes of an entity still to read, behind which the entity is as it is now. -/
structure Queue (hub : Hub) (receiver : Receiver) (entityId : EntityId) (pending : List Bool)
    (present : Bool) : Prop where
  eventType : receiver.eventType = StateChange.eventType
  within : hub.bus.Within receiver
  pending_eq : hub.pending receiver entityId = pending
  state : ∃ state, hub.state? entityId.text = some state ∧ state.isOn = present
  last : ∀ on, pending.getLast? = some on → on = present

variable {hub : Hub} {receiver : Receiver} {entityId : EntityId} {pending : List Bool}
  {present : Bool}

theorem isOn_write (hub : Hub) (w : Write)
    : (hub.write w).1.isOn = (w.value == State.on) := by
  unfold State.isOn Hub.write
  rw [value_set]

theorem pending_write (h : hub.bus.Within receiver)
    (htype : receiver.eventType = StateChange.eventType) (entityId : EntityId) (w : Write)
    : (hub.write w).2.pending receiver entityId
        =
      hub.pending receiver entityId ++ Write.values entityId [w] := by
  unfold Hub.pending Hub.write
  rw [bus_set]
  rw [Bus.unread_fire _ _ h htype.symm]
  rw [readAs_announcement]
  rw [List.filterMap_append]
  have hisOn := isOn_write hub w
  unfold Hub.write at hisOn
  unfold Write.values
  by_cases hentity : w.entityId = entityId
  . subst hentity
    simp [hisOn]
  . simp [hentity]

theorem queue_subscribe {state : State} (h : hub.state? entityId.text = some state)
    : hub.Queue (hub.bus.subscribe StateChange.eventType) entityId [] state.isOn := by
  constructor
  . rfl
  . apply Bus.within_subscribe
  . unfold Hub.pending
    rw [Bus.unread_subscribe]
    rfl
  . exact ⟨state, h, rfl⟩
  . simp

theorem Queue.write (h : hub.Queue receiver entityId pending present) (w : Write)
    : (hub.write w).2.Queue receiver entityId (pending ++ Write.values entityId [w])
        ((Write.values entityId [w]).getLast?.getD present) := by
  constructor
  . exact h.eventType
  . exact Bus.within_fire _ h.within
  . rw [pending_write h.within h.eventType]
    rw [h.pending_eq]
  . unfold Hub.write
    rw [state?_set]
    simp only [EntityId.text_inj]
    by_cases hentity : w.entityId = entityId
    . subst hentity
      rw [if_pos rfl]
      refine ⟨_, rfl, ?_⟩
      have hisOn := isOn_write hub w
      unfold Hub.write at hisOn
      unfold Write.values
      simpa using hisOn
    . rw [if_neg hentity]
      unfold Write.values
      simpa [hentity] using h.state
  . unfold Write.values
    by_cases hentity : w.entityId = entityId
    . simp [hentity]
    . simpa [hentity] using h.last

theorem Queue.aside (h : hub.Queue receiver entityId pending present) {other : Hub}
    (hstates : other.states = hub.states)
    (hlog : other.bus.log StateChange.eventType = hub.bus.log StateChange.eventType)
    : other.Queue receiver entityId pending present := by
  have hlog' : other.bus.log receiver.eventType = hub.bus.log receiver.eventType := by
    rw [h.eventType]
    exact hlog
  constructor
  . exact h.eventType
  . unfold Bus.Within
    rw [hlog']
    exact h.within
  . rw [← h.pending_eq]
    unfold Hub.pending Bus.unread
    rw [hlog']
  . unfold state?
    rw [hstates]
    exact h.state
  . exact h.last

theorem pending_of_unread (entityId : EntityId) {event : Event StateChange}
    {rest : List (Event StateChange)}
    (h : hub.bus.unread StateChange.ofJson receiver = event :: rest) {next : Nat}
    (hrest : hub.bus.unread StateChange.ofJson { receiver with next } = rest)
    : hub.pending receiver entityId
        =
      (if event.data.entityId = entityId then event.data.new.map State.isOn else none).toList
        ++ hub.pending { receiver with next } entityId := by
  unfold Hub.pending
  rw [h, hrest]
  rw [List.filterMap_cons]
  split
  . next hnone => simp [hnone]
  . next value hsome => simp [hsome]

theorem Queue.read {taken : List Bool}
    (h : hub.Queue receiver entityId (taken ++ pending) present) {next : Nat}
    (hwithin : hub.bus.Within { receiver with next })
    (hpending : hub.pending { receiver with next } entityId = pending)
    : hub.Queue { receiver with next } entityId pending present := by
  constructor
  . exact h.eventType
  . exact hwithin
  . exact hpending
  . exact h.state
  . intro on hon
    apply h.last
    rw [List.getLast?_append, hon]
    rfl

theorem values_append (entityId : EntityId) (writes more : List Write)
    : Write.values entityId (writes ++ more)
        =
      Write.values entityId writes ++ Write.values entityId more := by
  unfold Write.values
  rw [List.filter_append]
  rw [List.map_append]

theorem Queue.evolves (h : hub.Queue receiver entityId pending present) {writes : List Write}
    {other : Hub} (hevolves : hub.Evolves writes other)
    : other.Queue receiver entityId (pending ++ Write.values entityId writes)
        ((Write.values entityId writes).getLast?.getD present) := by
  induction hevolves with
  | refl => simpa [Write.values] using h
  -- The last value is that of the last write if it is for the entity, else the one before.
  | write _ w ih =>
    have hwrite := ih.write w
    rw [values_append]
    rw [← List.append_assoc]
    rw [List.getLast?_append]
    cases hlast : (Write.values entityId [w]).getLast? with
    | none => simpa [hlast] using hwrite
    | some on => simpa [hlast] using hwrite
  | aside _ hstates hlog ih => exact ih.aside hstates hlog

def news? (hub : Hub) (receiver : Receiver) (entityId : EntityId) : Option State :=
  match (hub.bus.receiveAs StateChange.ofJson receiver).1 with
  | .event event => if event.data.entityId = entityId then event.data.new else none
  | _ => none

theorem news?_of_lost (h : 0 < hub.bus.lost receiver) (entityId : EntityId)
    : hub.news? receiver entityId = none := by
  unfold news?
  rw [Bus.receiveAs_of_lost _ h]

theorem exists_pending_eq_append (hub : Hub) (receiver : Receiver) (entityId : EntityId)
    (count : Nat)
    : ∃ passed, hub.pending receiver entityId
        = passed ++ hub.pending { receiver with next := receiver.next + count } entityId := by
  obtain ⟨passed, hpassed⟩ :=
    hub.bus.exists_unread_eq_append StateChange.ofJson receiver count
  unfold Hub.pending
  rw [hpassed]
  rw [List.filterMap_append]
  exact ⟨_, rfl⟩

theorem Queue.receive (h : hub.Queue receiver entityId pending present)
    : ∃ taken rest, pending = taken ++ rest
        ∧ hub.Queue (hub.bus.receiveAs StateChange.ofJson receiver).2 entityId rest present
        ∧ (hub.bus.lost receiver = 0 →
          taken = ((hub.news? receiver entityId).map State.isOn).toList) := by
  by_cases hlost : 0 < hub.bus.lost receiver
  . obtain ⟨passed, hpassed⟩ :=
      hub.exists_pending_eq_append receiver entityId (hub.bus.lost receiver)
    rw [h.pending_eq] at hpassed
    subst hpassed
    rw [Bus.receiveAs_of_lost _ hlost]
    exact ⟨passed, _, rfl, h.read (Bus.within_skipLost h.within) rfl, by omega⟩
  . have hlost : hub.bus.lost receiver = 0 := by omega
    unfold news?
    cases hunread : hub.bus.unread StateChange.ofJson receiver with
    | nil =>
      obtain ⟨next, hreceive, hwithin, hrest⟩ :=
        Bus.receiveAs_of_unread_nil StateChange.ofJson hlost h.within hunread
      rw [hreceive]
      have hpending : hub.pending { receiver with next } entityId = pending := by
        rw [← h.pending_eq]
        unfold Hub.pending
        rw [hunread, hrest]
      have hnone : pending = [] ++ pending := by rfl
      rw [hnone] at h
      exact ⟨[], pending, rfl, h.read hwithin hpending, by simp⟩
    | cons event rest =>
      obtain ⟨next, hreceive, hwithin, hrest⟩ :=
        Bus.receiveAs_of_unread_cons StateChange.ofJson hlost hunread
      rw [hreceive]
      have hpending := pending_of_unread entityId hunread hrest
      rw [h.pending_eq] at hpending
      subst hpending
      refine ⟨_, _, rfl, h.read hwithin rfl, ?_⟩
      intro
      dsimp only
      split
      . rfl
      . rfl

theorem values_eq_nil {writes : List Write} (h : ∀ w ∈ writes, w.entityId ≠ entityId)
    : Write.values entityId writes = [] := by
  unfold Write.values
  rw [List.filter_eq_nil_iff.2 (by simpa using h)]
  rfl

theorem state?_evolves_of_ne {writes : List Write} {other : Hub}
    (hevolves : hub.Evolves writes other) (h : ∀ w ∈ writes, w.entityId ≠ entityId)
    : other.state? entityId.text = hub.state? entityId.text := by
  induction hevolves with
  | refl => rfl
  | write _ w ih =>
    unfold Hub.write
    rw [state?_set]
    rw [if_neg (by simpa [EntityId.text_inj] using h w (by simp))]
    apply ih
    intro v hv
    exact h v (List.mem_append_left _ hv)
  | aside _ hstates hlog ih =>
    unfold state? at *
    rw [hstates]
    exact ih h

theorem size_log_evolves {writes : List Write} {other : Hub}
    (hevolves : hub.Evolves writes other)
    : (other.bus.log StateChange.eventType).size
        =
      (hub.bus.log StateChange.eventType).size + writes.length := by
  induction hevolves with
  | refl => rfl
  | write _ w ih =>
    unfold Hub.write
    rw [bus_set]
    rw [Bus.log_fire]
    rw [if_pos (by rfl)]
    rw [Array.size_push]
    rw [ih]
    rw [List.length_append, List.length_singleton]
    rw [Nat.add_assoc]
  | aside _ hstates hlog ih =>
    rw [hlog]
    exact ih

theorem isSome_state?_evolves {key : String} {writes : List Write} {other : Hub}
    (hevolves : hub.Evolves writes other) (h : (hub.state? key).isSome)
    : (other.state? key).isSome := by
  induction hevolves with
  | refl => exact h
  | write _ w ih =>
    unfold Hub.write
    rw [state?_set]
    split
    . rfl
    . exact ih
  | aside _ hstates hlog ih =>
    unfold state?
    rw [hstates]
    exact ih

end Hub

end HomeHub
