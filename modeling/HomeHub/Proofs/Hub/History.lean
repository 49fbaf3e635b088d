import HomeHub.Proofs.Hub.Write

/-!
What a hub has of an entity after any calls of `set`: all that the last call for the entity has
given, and the time at which the value was first given that has not been replaced since. The clock
may show any times, in any order.
-/

namespace HomeHub

structure Entry extends Write where
  now : Timestamp

namespace Entry

/-- Among some calls for an entity, the last ones that give the same value: from where to where. -/
structure LastRun (calls : List Entry) (first last : Entry) : Prop where
  getLast : calls.getLast? = some last
  run : ∃ before rest, calls = before ++ first :: rest
    ∧ (∀ call ∈ first :: rest, call.value = last.value)
    ∧ ∀ call ∈ before.getLast?, call.value ≠ last.value

def state (entityId : EntityId) (first last : Entry) : State where
  entityId
  value := last.value
  attributes := last.attributes
  lastChanged := first.now
  lastUpdated := last.now
  context := last.context

def callsFor (entityId : EntityId) (entries : List Entry) : List Entry :=
  entries.filter (·.entityId = entityId)

variable {calls : List Entry} {first last entry : Entry}

theorem lastRun_singleton (entry : Entry) : LastRun [entry] entry entry := by
  refine ⟨rfl, [], [], rfl, ?_, by simp⟩
  intro call hcall
  rw [List.mem_singleton.1 hcall]

theorem LastRun.append_of_eq (h : LastRun calls first last) (heq : last.value = entry.value)
    : LastRun (calls ++ [entry]) first entry := by
  obtain ⟨before, rest, hcalls, hrun, hbefore⟩ := h.run
  refine ⟨by simp, before, rest ++ [entry], by simp [hcalls], ?_, ?_⟩
  . intro call hcall
    rw [← List.cons_append, List.mem_append] at hcall
    cases hcall with
    | inl hcall =>
      rw [← heq]
      exact hrun call hcall
    | inr hcall => rw [List.mem_singleton.1 hcall]
  . rw [← heq]
    exact hbefore

theorem LastRun.append_of_ne (h : LastRun calls first last) (hne : last.value ≠ entry.value)
    : LastRun (calls ++ [entry]) entry entry := by
  refine ⟨by simp, calls, [], rfl, ?_, ?_⟩
  . intro call hcall
    rw [List.mem_singleton.1 hcall]
  . intro call hcall
    rw [h.getLast, Option.mem_some_iff] at hcall
    rw [← hcall]
    exact hne

theorem eq_nil_of_run {before passed behind : List Entry} {value : String}
    (hbefore : ∀ call ∈ (before ++ passed).getLast?, call.value ≠ value)
    (hrun : ∀ call ∈ passed ++ behind, call.value = value)
    : passed = [] := by
  rw [List.eq_nil_iff_forall_not_mem]
  intro call hcall
  have hne : passed ≠ [] := List.ne_nil_of_mem hcall
  have hlast : (before ++ passed).getLast? = some (passed.getLast hne) := by
    rw [List.getLast?_append, List.getLast?_eq_some_getLast hne]
    rfl
  apply hbefore _ hlast
  exact hrun _ (List.mem_append_left _ (List.getLast_mem hne))

theorem LastRun.unique {first' last' : Entry} (h : LastRun calls first last)
    (h' : LastRun calls first' last')
    : first' = first ∧ last' = last := by
  have hlast : last' = last := by
    have heq := h'.getLast
    rw [h.getLast] at heq
    cases heq
    rfl
  subst hlast
  refine ⟨?_, rfl⟩
  obtain ⟨before, rest, hcalls, hrun, hbefore⟩ := h.run
  obtain ⟨before', rest', hcalls', hrun', hbefore'⟩ := h'.run
  rw [hcalls] at hcalls'
  -- The one that starts later would have a call of the other right before it.
  cases List.append_eq_append_iff.1 hcalls' with
  | inl hlater =>
    obtain ⟨passed, rfl, heq⟩ := hlater
    rw [heq] at hrun
    rw [eq_nil_of_run hbefore' hrun] at heq
    cases heq
    rfl
  | inr hearlier =>
    obtain ⟨passed, rfl, heq⟩ := hearlier
    rw [heq] at hrun'
    rw [eq_nil_of_run hbefore hrun'] at heq
    cases heq
    rfl

end Entry

namespace Hub

structure Remembers (hub : Hub) (entityId : EntityId) (calls : List Entry) : Prop where
  unset : calls = [] → hub.state? entityId.text = none
  kept : calls ≠ [] → ∃ first last, Entry.LastRun calls first last
    ∧ hub.state? entityId.text = some (Entry.state entityId first last)

/-- All calls of `set` that a hub has had; anything else leaves its states alone. -/
inductive History : Hub → List Entry → Prop where
  | start {hub : Hub} (hstates : hub.states = ∅) : History hub []
  | write {hub : Hub} {entries : List Entry} (h : History hub entries) (w : Write) :
    History (hub.write w).2 (entries ++ [{ w with now := hub.readClock.1 }])
  | aside {hub other : Hub} {entries : List Entry} (h : History hub entries)
    (hstates : other.states = hub.states) : History other entries

theorem state?_write (hub : Hub) (w : Write) (entityId : EntityId)
    : (hub.write w).2.state? entityId.text
        =
      if w.entityId = entityId then some (hub.write w).1 else hub.state? entityId.text := by
  unfold write
  rw [state?_set]
  simp only [EntityId.text_inj]

theorem Remembers.write {hub : Hub} {calls : List Entry} {w : Write}
    (h : hub.Remembers w.entityId calls)
    : (hub.write w).2.Remembers w.entityId (calls ++ [{ w with now := hub.readClock.1 }]) := by
  constructor
  . simp
  . intro _
    rw [state?_write, if_pos rfl]
    have hwrite : (hub.write w).1
        = hub.nextState hub.readClock.1 w.entityId w.value w.attributes w.context := by rfl
    rw [hwrite]
    unfold nextState
    by_cases hcalls : calls = []
    . rw [h.unset hcalls, hcalls]
      exact ⟨_, _, Entry.lastRun_singleton _, rfl⟩
    . obtain ⟨first, last, hrun, hstate⟩ := h.kept hcalls
      rw [hstate]
      by_cases hvalue : last.value = w.value
      . refine ⟨_, _, hrun.append_of_eq hvalue, ?_⟩
        simp [State.update, Entry.state, hvalue]
      . refine ⟨_, _, hrun.append_of_ne hvalue, ?_⟩
        simp [State.update, Entry.state, hvalue]

theorem Remembers.write_of_ne {hub : Hub} {entityId : EntityId} {calls : List Entry} {w : Write}
    (h : hub.Remembers entityId calls) (hne : w.entityId ≠ entityId)
    : (hub.write w).2.Remembers entityId calls := by
  have hstate := hub.state?_write w entityId
  rw [if_neg hne] at hstate
  constructor
  . rw [hstate]
    exact h.unset
  . rw [hstate]
    exact h.kept

theorem History.remembers {hub : Hub} {entries : List Entry} (h : hub.History entries)
    (entityId : EntityId)
    : hub.Remembers entityId (Entry.callsFor entityId entries) := by
  induction h with
  | start hstates =>
    constructor
    . intro _
      unfold state?
      rw [hstates]
      rfl
    . intro hcalls
      contradiction
  | write h w ih =>
    unfold Entry.callsFor at ih ⊢
    rw [List.filter_append]
    by_cases hentity : w.entityId = entityId
    . subst hentity
      simpa using ih.write
    . simpa [hentity] using ih.write_of_ne hentity
  | aside h hstates ih =>
    have hstate := congrArg (Table.find? · entityId.text) hstates
    constructor
    . intro hcalls
      exact hstate.trans (ih.unset hcalls)
    . intro hcalls
      obtain ⟨first, last, hrun, hkept⟩ := ih.kept hcalls
      exact ⟨first, last, hrun, hstate.trans hkept⟩

theorem Remembers.unique {hub other : Hub} {entityId : EntityId} {calls : List Entry}
    (h : hub.Remembers entityId calls) (hother : other.Remembers entityId calls)
    : other.state? entityId.text = hub.state? entityId.text := by
  by_cases hcalls : calls = []
  . rw [h.unset hcalls, hother.unset hcalls]
  . obtain ⟨first, last, hrun, hstate⟩ := h.kept hcalls
    obtain ⟨first', last', hrun', hstate'⟩ := hother.kept hcalls
    obtain ⟨rfl, rfl⟩ := hrun.unique hrun'
    rw [hstate, hstate']

theorem state?_history {hub : Hub} {entries : List Entry} (h : hub.History entries)
    : (∀ entityId, hub.Remembers entityId (Entry.callsFor entityId entries))
      ∧ (∀ (other : Hub) (others : List Entry), other.History others → ∀ entityId,
        Entry.callsFor entityId others = Entry.callsFor entityId entries →
          other.state? entityId.text = hub.state? entityId.text)
      ∧ ∀ w : Write, (hub.write w).2.state? w.entityId.text = some (hub.write w).1
        ∧ ∀ entityId, w.entityId ≠ entityId →
          (hub.write w).2.state? entityId.text = hub.state? entityId.text := by
  refine ⟨h.remembers, ?_, ?_⟩
  . intro other others hother entityId hcalls
    have hremembers := hother.remembers entityId
    rw [hcalls] at hremembers
    exact (h.remembers entityId).unique hremembers
  . intro w
    constructor
    . rw [state?_write, if_pos rfl]
    . intro entityId hne
      rw [state?_write, if_neg hne]

def hall : EntityId :=
  .ofLiteral "light" "hall"

def signed (entityId : EntityId) (value id : String) : Write :=
  ⟨entityId, value, [("source", .str id)], { id }⟩

def fourCalls : Hub :=
  [signed .desk "on" "a", signed .desk "on" "b", signed hall "off" "c",
    signed .desk "off" "d"].foldl (fun hub w => (hub.write w).2) simulated

def fiveCalls : Hub :=
  (fourCalls.readClock.2.write (signed .desk "off" "e")).2

def fiveEntries : List Entry :=
  [⟨signed .desk "on" "a", .reading 0⟩, ⟨signed .desk "on" "b", .reading 2⟩,
    ⟨signed hall "off" "c", .reading 4⟩, ⟨signed .desk "off" "d", .reading 6⟩,
    ⟨signed .desk "off" "e", .reading 9⟩]

theorem history_fiveCalls : fiveCalls.History fiveEntries := by
  have hstart : simulated.History [] := .start rfl
  have hfour : fourCalls.History (fiveEntries.take 4) :=
    (((hstart.write (signed .desk "on" "a")).write (signed .desk "on" "b")).write
      (signed hall "off" "c")).write (signed .desk "off" "d")
  have hread : fourCalls.readClock.2.History (fiveEntries.take 4) := hfour.aside rfl
  exact hread.write (signed .desk "off" "e")

theorem state?_after_fiveCalls
    : ∃ state, fiveCalls.History fiveEntries
        ∧ fiveCalls.state? EntityId.desk.text = some state
        ∧ state.value = State.off ∧ state.attributes = [("source", .str "e")]
        ∧ state.lastChanged = .reading 6 ∧ state.lastUpdated = .reading 9 := by
  have hremembers := (state?_history history_fiveCalls).1 .desk
  have hoff : Entry.LastRun (Entry.callsFor .desk fiveEntries)
      ⟨signed .desk "off" "d", .reading 6⟩ ⟨signed .desk "off" "e", .reading 9⟩ := by
    refine ⟨rfl, fiveEntries.take 2, [⟨signed .desk "off" "e", .reading 9⟩], rfl, ?_, ?_⟩
    . simp [signed]
    . simp [fiveEntries, signed]
  have hcalls : Entry.callsFor .desk fiveEntries ≠ [] := by
    intro hnil
    contradiction
  obtain ⟨first, last, hrun, hstate⟩ := hremembers.kept hcalls
  obtain ⟨rfl, rfl⟩ := hoff.unique hrun
  exact ⟨_, history_fiveCalls, hstate, rfl, rfl, rfl, rfl⟩

end Hub

end HomeHub
