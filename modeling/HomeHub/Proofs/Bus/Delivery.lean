import HomeHub.Proofs.Bus.Backlog

/-!
What the receivers of a bus get: the events of their type that are fired after they have subscribed,
in order, but for those that they lose by falling behind. Of the bus a receiver notices nothing but
these events.
-/

namespace HomeHub.Bus

variable {α : Type}

/-! ### Subscriptions -/

inductive Kind : Type → Type 1 where
  | raw : Kind Json
  | typed {α : Type} (decode : Json.Decoder α) : Kind α

def Kind.decode : {α : Type} → Kind α → Json.Decoder α
  | _, .raw => .ok
  | _, .typed decode => decode

def Kind.receive (bus : Bus) (receiver : Receiver) : {α : Type} → Kind α → Reception α × Receiver
  | _, .raw => bus.receive receiver
  | _, .typed decode => bus.receiveAs decode receiver

theorem Kind.receive_eq (kind : Kind α) (bus : Bus) (receiver : Receiver)
    : kind.receive bus receiver = bus.receiveAs kind.decode receiver := by
  cases kind with
  | raw => exact receive_eq_receiveAs bus receiver
  | typed decode => rfl

structure Subscription (α : Type) where
  kind : Kind α
  receiver : Receiver
  got : List (Reception α) := []

def yielded : Reception α → List (Reception α)
  | .idle => []
  | reception => [reception]

namespace Subscription

def receive (bus : Bus) (s : Subscription α) : Subscription α :=
  let (reception, receiver) := s.kind.receive bus s.receiver
  { s with receiver, got := s.got ++ yielded reception }

def pass (bus : Bus) (s : Subscription α) : Subscription α :=
  match bus.receive s.receiver with
  | (.event event, receiver) =>
    match s.kind.decode event.data with
    | .ok _ => s
    | .error _ => { s with receiver }
  | _ => s

end Subscription

/-! ### What becomes of the events -/

/-- How the receptions of a subscription account for the events that it has had before it. -/
inductive Accounts (decode : Json.Decoder α) : List (Event Json) → List (Reception α) → Prop where
  | nil : Accounts decode [] []
  | event {taken : List (Event Json)} {got : List (Reception α)} (h : Accounts decode taken got)
    {event : Event Json} {data : α} (hdata : decode event.data = .ok data) :
    Accounts decode (taken ++ [event]) (got ++ [.event (event.withData data)])
  | passed {taken : List (Event Json)} {got : List (Reception α)} (h : Accounts decode taken got)
    {event : Event Json} {e : Decoding.Error} (herror : decode event.data = .error e) :
    Accounts decode (taken ++ [event]) got
  | lost {taken : List (Event Json)} {got : List (Reception α)} (h : Accounts decode taken got)
    {lost : List (Event Json)} (hlost : lost ≠ []) :
    Accounts decode (taken ++ lost) (got ++ [.lagged lost.length])

structure Mailbox (α : Type) where
  backlog : List (Event Json) := []
  got : List (Reception α) := []

inductive Own where
  | fired (event : Event Json)
  | receive
  | pass

def Own.fired? : Own → Option (Event Json)
  | .fired event => some event
  | _ => none

namespace Mailbox

variable (decode : Json.Decoder α)

def receive (m : Mailbox α) : Mailbox α where
  backlog := (take decode m.backlog).2
  got := m.got ++ yielded (take decode m.backlog).1

def pass (m : Mailbox α) : Mailbox α :=
  match m.backlog with
  | [] => m
  | event :: rest =>
    if 1024 < m.backlog.length then m
    else
      match decode event.data with
      | .ok _ => m
      | .error _ => { m with backlog := rest }

def step (m : Mailbox α) : Own → Mailbox α
  | .fired event => { m with backlog := m.backlog ++ [event] }
  | .receive => m.receive decode
  | .pass => m.pass decode

def run (m : Mailbox α) (acts : List Own) : Mailbox α :=
  acts.foldl (step decode) m

def Complete (fired : List (Event Json)) (m : Mailbox α) : Prop :=
  ∃ taken, fired = taken ++ m.backlog ∧ Accounts decode taken m.got

variable {decode}

theorem accounts_takeFirst {taken : List (Event Json)} {got : List (Reception α)}
    (h : Accounts decode taken got) (backlog : List (Event Json))
    : ∃ more, backlog = more ++ (takeFirst decode backlog).2
        ∧ Accounts decode (taken ++ more) (got ++ yielded (takeFirst decode backlog).1) := by
  induction backlog generalizing taken with
  | nil =>
    refine ⟨[], rfl, ?_⟩
    simpa [takeFirst, yielded] using h
  | cons event rest ih =>
    unfold takeFirst
    cases hdata : decode event.data with
    | ok data => exact ⟨[event], rfl, h.event hdata⟩
    | error e =>
      obtain ⟨more, hrest, haccounts⟩ := ih (h.passed hdata)
      refine ⟨event :: more, ?_, ?_⟩
      . rw [List.cons_append, ← hrest]
      . simpa using haccounts

theorem Complete.receive {fired : List (Event Json)} {m : Mailbox α} (h : m.Complete decode fired)
    : (m.receive decode).Complete decode fired := by
  obtain ⟨taken, rfl, haccounts⟩ := h
  unfold Mailbox.receive take
  split
  . next hlong =>
    let count := m.backlog.length - 1024
    have hlost : m.backlog.take count ≠ [] := by
      rw [← List.length_pos_iff, List.length_take]
      omega
    have hcount : (m.backlog.take count).length = count := by
      rw [List.length_take]
      omega
    have haccounts := haccounts.lost hlost
    rw [hcount] at haccounts
    refine ⟨taken ++ m.backlog.take count, ?_, haccounts⟩
    rw [List.append_assoc, List.take_append_drop]
  . obtain ⟨more, hbacklog, haccounts⟩ := accounts_takeFirst haccounts m.backlog
    refine ⟨taken ++ more, ?_, haccounts⟩
    rw [List.append_assoc, ← hbacklog]

theorem Complete.pass {fired : List (Event Json)} {m : Mailbox α} (h : m.Complete decode fired)
    : (m.pass decode).Complete decode fired := by
  unfold Mailbox.pass
  split
  . exact h
  . next event rest hbacklog =>
    split
    . exact h
    . split
      . exact h
      . next herror =>
        obtain ⟨taken, rfl, haccounts⟩ := h
        refine ⟨taken ++ [event], ?_, haccounts.passed herror⟩
        rw [hbacklog]
        simp

theorem Complete.step {fired : List (Event Json)} {m : Mailbox α} (h : m.Complete decode fired)
    (act : Own)
    : (m.step decode act).Complete decode (fired ++ act.fired?.toList) := by
  cases act with
  | fired event =>
    obtain ⟨taken, rfl, haccounts⟩ := h
    exact ⟨taken, List.append_assoc _ _ _, haccounts⟩
  | receive =>
    have hfired : fired ++ Own.receive.fired?.toList = fired := List.append_nil _
    rw [hfired]
    exact h.receive
  | pass =>
    have hfired : fired ++ Own.pass.fired?.toList = fired := List.append_nil _
    rw [hfired]
    exact h.pass

theorem Complete.run {fired : List (Event Json)} {m : Mailbox α} (h : m.Complete decode fired)
    (acts : List Own)
    : (m.run decode acts).Complete decode (fired ++ acts.filterMap Own.fired?) := by
  induction acts generalizing fired m with
  | nil =>
    rw [List.filterMap_nil, List.append_nil]
    exact h
  | cons act acts ih =>
    have hfired : act.fired?.toList ++ acts.filterMap Own.fired?
        = (act :: acts).filterMap Own.fired? := by
      rw [List.filterMap_cons]
      cases act.fired? with
      | none => rfl
      | some event => rfl
    have hrest := ih (h.step act)
    rw [List.append_assoc, hfired] at hrest
    exact hrest

theorem complete_empty (decode : Json.Decoder α)
    : ({} : Mailbox α).Complete decode [] := by
  exact ⟨[], rfl, .nil⟩

end Mailbox

/-! ### Traffic -/

structure Traffic : Type 1 where
  bus : Bus := {}
  subscriptions : List ((α : Type) × Subscription α) := []

inductive Traffic.Act : Type 1 where
  | subscribe {α : Type} (eventType : String) (kind : Kind α)
  | fire (event : Event Json)
  | receive (number : Nat)
  | pass (number : Nat)

def Traffic.Act.own? (eventType : String) (number : Nat) : Traffic.Act → Option Own
  | .subscribe _ _ => none
  | .fire event => if event.eventType = eventType then some (.fired event) else none
  | .receive other => if other = number then some .receive else none
  | .pass other => if other = number then some .pass else none

def Traffic.Act.fired? (eventType : String) : Traffic.Act → Option (Event Json)
  | .fire event => if event.eventType = eventType then some event else none
  | _ => none

def Subscription.after (bus : Bus) (number : Nat) (s : Subscription α)
    : Traffic.Act → Subscription α
  | .receive other => if other = number then s.receive bus else s
  | .pass other => if other = number then s.pass bus else s
  | _ => s

/-- A subscription is to its owner as if there were nothing but its own events. -/
structure Subscription.Holds (bus : Bus) (kind : Kind α) (eventType : String)
    (s : Subscription α) (m : Mailbox α) : Prop where
  kind : s.kind = kind
  eventType : s.receiver.eventType = eventType
  within : bus.Within s.receiver
  backlog : bus.backlog s.receiver = m.backlog
  got : s.got = m.got

namespace Subscription.Holds

variable {bus : Bus} {kind : Kind α} {eventType : String} {s : Subscription α} {m : Mailbox α}

theorem fire (h : s.Holds bus kind eventType m) (event : Event Json)
    : s.Holds (bus.fire event) kind eventType
        (if event.eventType = eventType then m.step kind.decode (.fired event) else m) := by
  have hbacklog := backlog_fire h.within event
  rw [h.eventType, h.backlog] at hbacklog
  refine ⟨h.kind, h.eventType, within_fire event h.within, ?_, ?_⟩
  . rw [hbacklog]
    split
    . rfl
    . rfl
  . rw [h.got]
    split
    . rfl
    . rfl

theorem receive (h : s.Holds bus kind eventType m)
    : (s.receive bus).Holds bus kind eventType (m.step kind.decode .receive) := by
  obtain ⟨next, hreceive, hbacklog, hwithin⟩ := receiveAs_take kind.decode h.within
  rw [h.backlog] at hreceive hbacklog
  unfold Subscription.receive
  rw [h.kind, Kind.receive_eq, hreceive]
  refine ⟨rfl, h.eventType, hwithin, hbacklog, ?_⟩
  dsimp only
  rw [h.got]
  rfl

theorem pass (h : s.Holds bus kind eventType m)
    : (s.pass bus).Holds bus kind eventType (m.step kind.decode .pass) := by
  have hlost := lost_eq bus s.receiver
  rw [h.backlog] at hlost
  unfold Mailbox.step Mailbox.pass
  dsimp only
  cases hbacklog : m.backlog with
  | nil =>
    unfold Subscription.pass
    rw [receive_of_backlog_nil (by rw [h.backlog, hbacklog])]
    exact h
  | cons event rest =>
    rw [hbacklog] at hlost
    dsimp only
    by_cases hlong : 1024 < (event :: rest).length
    . unfold Subscription.pass
      rw [if_pos hlong, receive_of_lost (by omega)]
      exact h
    . have hcons : bus.backlog s.receiver = event :: rest := by
        rw [h.backlog, hbacklog]
      unfold Subscription.pass
      rw [if_neg hlong, receive_of_backlog_cons (by omega) hcons]
      dsimp only
      rw [h.kind]
      cases kind.decode event.data with
      | ok data => exact h
      | error e =>
        refine ⟨rfl, h.eventType, within_of_backlog_cons hcons, ?_, h.got⟩
        dsimp only
        rw [backlog_add, hcons]
        rfl

end Subscription.Holds

namespace Traffic

def modify (traffic : Traffic) (number : Nat)
    (f : {α : Type} → Subscription α → Subscription α) : Traffic :=
  { traffic with subscriptions := traffic.subscriptions.modify number fun ⟨α, s⟩ => ⟨α, f s⟩ }

def step (traffic : Traffic) : Act → Traffic
  | .subscribe eventType kind =>
    { traffic with
      subscriptions :=
        traffic.subscriptions ++ [⟨_, { kind, receiver := traffic.bus.subscribe eventType }⟩] }
  | .fire event => { traffic with bus := traffic.bus.fire event }
  | .receive number => traffic.modify number (Subscription.receive traffic.bus)
  | .pass number => traffic.modify number (Subscription.pass traffic.bus)

def run (traffic : Traffic) (acts : List Act) : Traffic :=
  acts.foldl step traffic

def fired (eventType : String) (acts : List Act) : List (Event Json) :=
  acts.filterMap (Act.fired? eventType)

theorem fired_own (eventType : String) (number : Nat) (acts : List Act)
    : (acts.filterMap (Act.own? eventType number)).filterMap Own.fired?
        =
      fired eventType acts := by
  unfold fired
  rw [List.filterMap_filterMap]
  congr 1
  funext act
  cases act with
  | subscribe eventType kind => rfl
  | fire event =>
    dsimp only [Act.own?, Act.fired?]
    split
    . rfl
    . rfl
  | receive other =>
    dsimp only [Act.own?, Act.fired?]
    split
    . rfl
    . rfl
  | pass other =>
    dsimp only [Act.own?, Act.fired?]
    split
    . rfl
    . rfl

theorem getElem?_modify {traffic : Traffic} {number : Nat} {s : Subscription α}
    (h : traffic.subscriptions[number]? = some ⟨α, s⟩) (other : Nat)
    (f : {α : Type} → Subscription α → Subscription α)
    : (traffic.modify other f).subscriptions[number]?
        =
      some ⟨α, if other = number then f s else s⟩ := by
  unfold modify
  dsimp only
  rw [List.getElem?_modify, h]
  split
  . rfl
  . rfl

theorem getElem?_step {traffic : Traffic} {number : Nat} {s : Subscription α}
    (h : traffic.subscriptions[number]? = some ⟨α, s⟩) (act : Act)
    : (traffic.step act).subscriptions[number]?
        =
      some ⟨α, s.after traffic.bus number act⟩ := by
  cases act with
  | subscribe eventType kind =>
    obtain ⟨hlt, _⟩ := List.getElem?_eq_some_iff.1 h
    dsimp only [step]
    rw [List.getElem?_append_left hlt]
    exact h
  | fire event => exact h
  | receive other => exact getElem?_modify h other (Subscription.receive traffic.bus)
  | pass other => exact getElem?_modify h other (Subscription.pass traffic.bus)

variable {kind : Kind α} {eventType : String}

theorem holds_step {traffic : Traffic} {number : Nat} {s : Subscription α} {m : Mailbox α}
    (h : s.Holds traffic.bus kind eventType m) (act : Act)
    : (s.after traffic.bus number act).Holds (traffic.step act).bus kind eventType
        (m.run kind.decode (act.own? eventType number).toList) := by
  cases act with
  | subscribe eventType kind => exact h
  | fire event =>
    have hfire := h.fire event
    dsimp only [Act.own?]
    split
    . next htype =>
      rw [if_pos htype] at hfire
      exact hfire
    . next htype =>
      rw [if_neg htype] at hfire
      exact hfire
  | receive other =>
    dsimp only [Act.own?, Subscription.after]
    split
    . exact h.receive
    . exact h
  | pass other =>
    dsimp only [Act.own?, Subscription.after]
    split
    . exact h.pass
    . exact h

theorem holds_run {traffic : Traffic} {number : Nat} {s : Subscription α} {m : Mailbox α}
    (hget : traffic.subscriptions[number]? = some ⟨α, s⟩)
    (h : s.Holds traffic.bus kind eventType m) (acts : List Act)
    : ∃ last : Subscription α, (traffic.run acts).subscriptions[number]? = some ⟨α, last⟩
        ∧ last.Holds (traffic.run acts).bus kind eventType
          (m.run kind.decode (acts.filterMap (Act.own? eventType number))) := by
  induction acts generalizing traffic s m with
  | nil => exact ⟨s, hget, h⟩
  | cons act acts ih =>
    have hown : (m.run kind.decode (act.own? eventType number).toList).run kind.decode
        (acts.filterMap (Act.own? eventType number))
          = m.run kind.decode ((act :: acts).filterMap (Act.own? eventType number)) := by
      unfold Mailbox.run
      rw [← List.foldl_append, List.filterMap_cons]
      cases act.own? eventType number with
      | none => rfl
      | some own => rfl
    obtain ⟨last, hlast, hholds⟩ := ih (getElem?_step hget act) (holds_step h act)
    rw [hown] at hholds
    exact ⟨last, hlast, hholds⟩

theorem holds_subscribe (traffic : Traffic) (eventType : String) (kind : Kind α)
    (acts : List Act)
    : ∃ s : Subscription α,
        (traffic.run (.subscribe eventType kind :: acts)).subscriptions[
          traffic.subscriptions.length]? = some ⟨α, s⟩
        ∧ s.Holds (traffic.run (.subscribe eventType kind :: acts)).bus kind eventType
          (({} : Mailbox α).run kind.decode
            (acts.filterMap (Act.own? eventType traffic.subscriptions.length))) := by
  let s : Subscription α := { kind, receiver := traffic.bus.subscribe eventType }
  have hget : (traffic.step (.subscribe eventType kind)).subscriptions[
      traffic.subscriptions.length]? = some ⟨α, s⟩ := by
    apply List.getElem?_concat_length
  have hholds : s.Holds traffic.bus kind eventType {} :=
    ⟨rfl, rfl, within_subscribe _ _, backlog_subscribe _ _, rfl⟩
  exact holds_run hget hholds acts

/--
What has become of a subscription, when the given events of its type have been fired since: each of
them has been yielded, passed over, or reported as lost, in order, or is still before it; and what
the next reception will yield.
-/
structure Delivers (bus : Bus) (kind : Kind α) (fired : List (Event Json)) (s : Subscription α)
    : Prop where
  kind_eq : s.kind = kind
  account : ∃ taken, fired = taken ++ bus.backlog s.receiver
    ∧ Accounts kind.decode taken s.got
  next : ∃ receiver,
    kind.receive bus s.receiver = ((take kind.decode (bus.backlog s.receiver)).1, receiver)
      ∧ bus.backlog receiver = (take kind.decode (bus.backlog s.receiver)).2

theorem delivers_of_subscribe (traffic : Traffic) (eventType : String) (kind : Kind α)
    (acts : List Act)
    : ∃ s : Subscription α,
        (traffic.run (.subscribe eventType kind :: acts)).subscriptions[
          traffic.subscriptions.length]? = some ⟨α, s⟩
        ∧ Delivers (traffic.run (.subscribe eventType kind :: acts)).bus kind
          (fired eventType acts) s
        ∧ ∀ (elsewhere : Traffic) (others : List Act),
          others.filterMap (Act.own? eventType elsewhere.subscriptions.length)
            = acts.filterMap (Act.own? eventType traffic.subscriptions.length) →
          ∃ twin : Subscription α,
            (elsewhere.run (.subscribe eventType kind :: others)).subscriptions[
              elsewhere.subscriptions.length]? = some ⟨α, twin⟩
            ∧ twin.got = s.got
            ∧ (elsewhere.run (.subscribe eventType kind :: others)).bus.backlog twin.receiver
              = (traffic.run (.subscribe eventType kind :: acts)).bus.backlog s.receiver := by
  obtain ⟨s, hget, hholds⟩ := holds_subscribe traffic eventType kind acts
  refine ⟨s, hget, ⟨hholds.kind, ?_, ?_⟩, ?_⟩
  . have hcomplete := (Mailbox.complete_empty kind.decode).run
      (acts.filterMap (Act.own? eventType traffic.subscriptions.length))
    rw [List.nil_append, fired_own] at hcomplete
    rw [hholds.backlog, hholds.got]
    exact hcomplete
  . obtain ⟨next, hreceive, hbacklog, _⟩ := receiveAs_take kind.decode hholds.within
    exact ⟨_, (kind.receive_eq _ _).trans hreceive, hbacklog⟩
  . intro elsewhere others hown
    obtain ⟨twin, htwin, hsame⟩ := holds_subscribe elsewhere eventType kind others
    rw [hown] at hsame
    exact ⟨twin, htwin, hsame.got.trans hholds.got.symm,
      hsame.backlog.trans hholds.backlog.symm⟩

end Traffic

end HomeHub.Bus
