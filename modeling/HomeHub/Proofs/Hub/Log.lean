import HomeHub.Proofs.Hub.Write

/-!
The changes on the bus are a log of the store: a listener that keeps up receives one event for every
write, in order, and replaying what it received gives the store.
-/

namespace HomeHub

structure Call extends Write where
  returned : State

structure Listener where
  hub : Hub
  receiver : Receiver
  calls : List Call := []
  received : List (Event StateChange) := []

namespace Listener

inductive Act where
  | write (w : Write)
  | receive

def start (hub : Hub) : Listener where
  hub := hub
  receiver := hub.bus.subscribe StateChange.eventType

def write (listener : Listener) (w : Write) : Listener :=
  let (returned, hub) := listener.hub.write w
  { listener with hub, calls := listener.calls ++ [{ w with returned }] }

def receive (listener : Listener) : Reception StateChange × Listener :=
  let (reception, receiver) := listener.hub.bus.receiveAs StateChange.ofJson listener.receiver
  match reception with
  | .event event =>
    (reception, { listener with receiver, received := listener.received ++ [event] })
  | _ => (reception, { listener with receiver })

def step (listener : Listener) : Act → Listener
  | .write w => listener.write w
  | .receive => listener.receive.2

def run (listener : Listener) (acts : List Act) : Listener :=
  acts.foldl step listener

def KeepsUp (listener : Listener) : List Act → Prop
  | [] => True
  | .write w :: acts => (listener.write w).KeepsUp acts
  | .receive :: acts =>
    listener.hub.bus.lost listener.receiver = 0 ∧ listener.receive.2.KeepsUp acts

instance decidableKeepsUp (listener : Listener)
    : (acts : List Act) → Decidable (listener.KeepsUp acts)
  | [] => inferInstanceAs (Decidable True)
  | .write w :: acts => decidableKeepsUp (listener.write w) acts
  | .receive :: acts =>
    have := decidableKeepsUp listener.receive.2 acts
    inferInstanceAs (Decidable (_ ∧ _))

def latest (events : List (Event StateChange)) (entityId : EntityId) : Option State :=
  (events.filter (·.data.entityId = entityId)).getLast?.bind (·.data.new)

def absorb (states : Table String State) (event : Event StateChange) : Table String State :=
  match event.data.new with
  | some state => states.insert event.data.entityId.text state
  | none => states.erase event.data.entityId.text

def replay (events : List (Event StateChange)) : Table String State :=
  events.foldl absorb ∅

structure Tells (before : List (Event StateChange)) (event : Event StateChange) (call : Call) :
    Prop where
  entityId : event.data.entityId = call.entityId
  context : event.context = call.context
  new : event.data.new = some call.returned
  old : event.data.old = latest before call.entityId

def heard (listener : Listener) : List (Event StateChange) :=
  listener.received ++ listener.hub.bus.unread StateChange.ofJson listener.receiver

structure Inv (listener : Listener) : Prop where
  eventType : listener.receiver.eventType = StateChange.eventType
  within : listener.hub.bus.Within listener.receiver
  length : listener.heard.length = listener.calls.length
  tells : ∀ i event call, listener.heard[i]? = some event → listener.calls[i]? = some call →
    Tells (listener.heard.take i) event call
  latest : ∀ entityId, latest listener.heard entityId = listener.hub.state? entityId.text
  replay : replay listener.heard = listener.hub.states

theorem latest_concat (events : List (Event StateChange)) (event : Event StateChange)
    (entityId : EntityId)
    : latest (events ++ [event]) entityId
        =
      if event.data.entityId = entityId then event.data.new else latest events entityId := by
  unfold latest
  rw [List.filter_append]
  split
  . next h => simp [h]
  . next h => simp [h]

theorem replay_concat (events : List (Event StateChange)) (event : Event StateChange)
    : replay (events ++ [event]) = absorb (replay events) event := by
  unfold replay
  rw [List.foldl_append]
  rfl

theorem heard_write (listener : Listener) (w : Write)
    (htype : listener.receiver.eventType = StateChange.eventType)
    (hwithin : listener.hub.bus.Within listener.receiver)
    : ∃ firedAt, (listener.write w).heard
        =
      listener.heard ++ [⟨StateChange.eventType,
        ⟨w.entityId, listener.hub.state? w.entityId.text, some (listener.hub.write w).1⟩,
        firedAt, w.context⟩] := by
  refine ⟨listener.hub.surroundings.clock (listener.hub.readings + 1), ?_⟩
  unfold heard write Hub.write
  dsimp only
  rw [Hub.bus_set]
  rw [Bus.unread_fire _ _ hwithin htype.symm]
  rw [Hub.readAs_announcement]
  rw [List.append_assoc]
  rfl

theorem inv_start {hub : Hub} (hstates : hub.states = ∅) : (start hub).Inv := by
  have hheard : (start hub).heard = [] := by
    unfold heard start
    simp
  constructor
  . rfl
  . apply Bus.within_subscribe
  . rw [hheard]
    rfl
  . intro i event call h
    rw [hheard] at h
    contradiction
  . intro entityId
    rw [hheard]
    unfold start Hub.state?
    rw [hstates]
    rfl
  . rw [hheard]
    exact hstates.symm

theorem inv_write {listener : Listener} (w : Write) (h : listener.Inv)
    : (listener.write w).Inv := by
  obtain ⟨firedAt, hheard⟩ := heard_write listener w h.eventType h.within
  have hcalls : (listener.write w).calls
      = listener.calls ++ [{ w with returned := (listener.hub.write w).1 }] := by
    rfl
  constructor
  . exact h.eventType
  . exact Bus.within_fire _ h.within
  . rw [hheard]
    rw [hcalls]
    simp [h.length]
  . intro i event call hevent hcall
    rw [hheard] at hevent ⊢
    rw [hcalls] at hcall
    by_cases hi : i < listener.calls.length
    . have hi' : i < listener.heard.length := by
        rw [h.length]
        exact hi
      rw [List.getElem?_append_left hi'] at hevent
      rw [List.getElem?_append_left hi] at hcall
      rw [List.take_append_of_le_length (Nat.le_of_lt hi')]
      exact h.tells i event call hevent hcall
    -- The last call is told by the event that has just been fired.
    . have hlast : i = listener.calls.length := by
        have := (List.getElem?_eq_some_iff.1 hcall).1
        simp at this
        omega
      subst hlast
      rw [List.getElem?_concat_length] at hcall
      rw [← h.length] at hevent ⊢
      rw [List.getElem?_concat_length] at hevent
      cases hevent
      cases hcall
      rw [List.take_left]
      exact ⟨rfl, rfl, rfl, (h.latest w.entityId).symm⟩
  . intro entityId
    rw [hheard]
    rw [latest_concat]
    unfold write Hub.write
    dsimp only
    rw [Hub.state?_set]
    rw [h.latest entityId]
    simp only [EntityId.text_inj]
  . rw [hheard]
    rw [replay_concat]
    rw [h.replay]
    rfl

theorem Inv.of_heard {listener : Listener} (h : listener.Inv) {next : Nat}
    {received : List (Event StateChange)}
    (hwithin : listener.hub.bus.Within { listener.receiver with next })
    (hheard : { listener with receiver := { listener.receiver with next }, received }.heard
      = listener.heard)
    : { listener with receiver := { listener.receiver with next }, received }.Inv := by
  constructor
  . exact h.eventType
  . exact hwithin
  . rw [hheard]
    exact h.length
  . rw [hheard]
    exact h.tells
  . rw [hheard]
    exact h.latest
  . rw [hheard]
    exact h.replay

theorem receive_of_lost_eq_zero {listener : Listener} (h : listener.Inv)
    (hlost : listener.hub.bus.lost listener.receiver = 0)
    : listener.receive.2.Inv ∧
        match listener.receive.1 with
        | .event _ => listener.received.length < listener.calls.length
        | .lagged _ => False
        | .idle => listener.received.length = listener.calls.length := by
  have hlength := h.length
  unfold heard at hlength
  unfold receive
  cases hunread : listener.hub.bus.unread StateChange.ofJson listener.receiver with
  | nil =>
    obtain ⟨next, hreceive, hwithin, hrest⟩ :=
      Bus.receiveAs_of_unread_nil StateChange.ofJson hlost h.within hunread
    rw [hreceive]
    refine ⟨h.of_heard hwithin ?_, ?_⟩
    . unfold heard
      dsimp only
      rw [hrest, hunread]
    . simpa [hunread] using hlength
  | cons first rest =>
    obtain ⟨next, hreceive, hwithin, hrest⟩ :=
      Bus.receiveAs_of_unread_cons StateChange.ofJson hlost hunread
    rw [hreceive]
    refine ⟨h.of_heard hwithin ?_, ?_⟩
    . unfold heard
      dsimp only
      rw [hrest, hunread]
      simp
    . rw [hunread] at hlength
      simp only [List.length_append, List.length_cons] at hlength
      dsimp only
      omega

theorem inv_run {listener : Listener} {acts : List Act} (h : listener.Inv)
    (hkeeps : listener.KeepsUp acts)
    : (listener.run acts).Inv := by
  induction acts generalizing listener with
  | nil => exact h
  | cons act acts ih =>
    cases act with
    | write w => exact ih (inv_write w h) hkeeps
    -- The invariant does not see a reception: what is received was heard before.
    | receive =>
      obtain ⟨hlost, hkeeps⟩ := hkeeps
      exact ih (receive_of_lost_eq_zero h hlost).1 hkeeps

theorem Inv.tells_received {listener : Listener} (h : listener.Inv) {i : Nat}
    {event : Event StateChange} (hevent : listener.received[i]? = some event)
    : ∃ call, listener.calls[i]? = some call ∧ Tells (listener.received.take i) event call := by
  have hi : i < listener.received.length := (List.getElem?_eq_some_iff.1 hevent).1
  have hheard : listener.heard[i]? = some event := by
    unfold heard
    rw [List.getElem?_append_left hi]
    exact hevent
  have hcall : i < listener.calls.length := by
    rw [← h.length]
    exact (List.getElem?_eq_some_iff.1 hheard).1
  refine ⟨listener.calls[i], List.getElem?_eq_getElem hcall, ?_⟩
  have htells := h.tells i event _ hheard (List.getElem?_eq_getElem hcall)
  unfold heard at htells
  rw [List.take_append_of_le_length (Nat.le_of_lt hi)] at htells
  exact htells

theorem Inv.heard_eq_received {listener : Listener} (h : listener.Inv)
    (hall : listener.received.length = listener.calls.length)
    : listener.heard = listener.received := by
  have hlength := h.length
  unfold heard at hlength ⊢
  rw [List.length_append] at hlength
  -- There is an event for every call, so none is left.
  have hunread : listener.hub.bus.unread StateChange.ofJson listener.receiver = [] := by
    apply List.eq_nil_of_length_eq_zero
    omega
  rw [hunread]
  rw [List.append_nil]

theorem received_faithful (hub : Hub) (hstates : hub.states = ∅) (acts : List Act)
    (hkeeps : (start hub).KeepsUp acts)
    : let listener := (start hub).run acts
      (∀ i event, listener.received[i]? = some event →
        ∃ call, listener.calls[i]? = some call ∧ Tells (listener.received.take i) event call)
      ∧ (listener.hub.bus.lost listener.receiver = 0 →
        match listener.receive.1 with
        | .event _ => listener.received.length < listener.calls.length
        | .lagged _ => False
        | .idle => listener.received.length = listener.calls.length)
      ∧ (listener.received.length = listener.calls.length →
        replay listener.received = listener.hub.states) := by
  intro listener
  have h : listener.Inv := inv_run (inv_start hstates) hkeeps
  refine ⟨?_, ?_, ?_⟩
  . intro i event hevent
    exact h.tells_received hevent
  . intro hlost
    exact (receive_of_lost_eq_zero h hlost).2
  . intro hall
    rw [← h.heard_eq_received hall]
    exact h.replay

def twoWrites : List Act :=
  [.write ⟨.desk, State.on, [("brightness", .int 128)], { id := "first" }⟩,
   .receive,
   .write ⟨.desk, State.off, [], { id := "second", parentId := some "first" }⟩,
   .receive]

theorem replay_two_writes
    : Hub.simulated.states = ∅ ∧ (start .simulated).KeepsUp twoWrites
      ∧ ((start .simulated).run twoWrites).received.length = 2
      ∧ ((start .simulated).run twoWrites).calls.length = 2
      ∧ replay ((start .simulated).run twoWrites).received
          =
        ((start .simulated).run twoWrites).hub.states := by
  have hstates : Hub.simulated.states = ∅ := by rfl
  have hkeeps : (start .simulated).KeepsUp twoWrites := by decide +kernel
  have hreceived : ((start .simulated).run twoWrites).received.length = 2 := by decide +kernel
  have hcalls : ((start .simulated).run twoWrites).calls.length = 2 := by rfl
  have hfaithful := received_faithful .simulated hstates twoWrites hkeeps
  exact ⟨hstates, hkeeps, hreceived, hcalls, hfaithful.2.2 (hreceived.trans hcalls.symm)⟩

end Listener

end HomeHub
