import HomeHub.Proofs.Bridge.Calls
import HomeHub.Proofs.Bridge.Lag
import HomeHub.Proofs.Bridge.Numbering
import HomeHub.Proofs.Hub.Tidings

/-!
What accessories have to do with each other, which is nothing. All entities share one log, one hub
and the services, and yet an accessory is after a run as it is after the same run without all that
is done to others: a second run is carried along in which the log tells of one entity alone.
-/

namespace HomeHub.Bridge

theorem Switch.reflect_congr {switch : Switch} {news other : Option State}
    (h : news.map State.isOn = other.map State.isOn)
    : switch.reflect news = switch.reflect other := by
  cases news with
  | none =>
    rw [Option.map_none, eq_comm, Option.map_eq_none_iff] at h
    rw [h]
  | some state =>
    obtain ⟨another, rfl, hon⟩ := Option.map_eq_some_iff.1 h.symm
    unfold reflect update
    dsimp only
    rw [hon]

theorem Switch.entityId_of_commanded? {switch : Switch} {characteristic : String} {value : Json}
    {entityId : EntityId} {on : Bool}
    (h : switch.commanded? characteristic value = some (.move entityId on))
    : switch.entityId = entityId := by
  cases value with
  | bool value =>
    unfold commanded? at h
    dsimp only at h
    split at h
    . have hmove : Request.move switch.entityId value = .move entityId on := Option.some.inj h
      exact (move_inj hmove).1
    . contradiction
  | _ => contradiction

namespace Follower

def hears? (hub : Hub) (follower : Follower) : Option EntityId :=
  follower.receiver.bind fun receiver =>
    match (hub.bus.receiveAs StateChange.ofJson receiver).1 with
    | .event event => some event.data.entityId
    | _ => none

theorem news?_of_hears? {hub : Hub} {follower : Follower}
    (h : follower.hears? hub ≠ some follower.switch.entityId)
    : follower.news? hub = none := by
  unfold hears? at h
  unfold news?
  cases hreceiver : follower.receiver with
  | none => rfl
  | some receiver =>
    rw [hreceiver] at h
    dsimp only [Option.bind_some] at h ⊢
    unfold Hub.news?
    split
    . next event hevent =>
      rw [hevent] at h
      rw [if_neg (by simpa using h)]
    . rfl

variable {hub own : Hub} {follower : Follower} {receiver : Receiver} {tidings : List Tiding}

theorem receive_of_awaits_nil (hreceiver : follower.receiver = some receiver)
    (h : hub.Awaits receiver [])
    : follower.hears? hub = none
        ∧ ∃ next, follower.receive hub.bus = { follower with receiver := some next }
          ∧ hub.Awaits next [] := by
  obtain ⟨next, hreceive, hnext⟩ := h.receive_nil
  unfold hears? receive
  rw [hreceiver]
  dsimp only [Option.bind_some]
  rw [hreceive]
  exact ⟨rfl, next, rfl, hnext⟩

theorem receive_of_awaits_cons {first : Tiding} (hreceiver : follower.receiver = some receiver)
    (h : hub.Awaits receiver (first :: tidings)) (hlost : hub.bus.lost receiver = 0)
    : follower.hears? hub = some first.1
        ∧ ∃ next news, news.map State.isOn = first.2 ∧ hub.Awaits next tidings
          ∧ follower.receive hub.bus
            = { switch :=
                  if first.1 = follower.switch.entityId then follower.switch.reflect news
                  else follower.switch
                receiver := some next } := by
  obtain ⟨event, next, hreceive, rfl, hnext⟩ := h.receive_cons hlost
  unfold hears? receive
  rw [hreceiver]
  dsimp only [Option.bind_some]
  rw [hreceive]
  refine ⟨rfl, next, event.data.new, rfl, hnext, ?_⟩
  by_cases hsame : event.data.tiding.1 = follower.switch.entityId
  . rw [if_pos hsame]
    exact if_pos hsame
  . rw [if_neg hsame]
    exact if_neg hsame

structure Alike (entityId : EntityId) (hub own : Hub) (follower alone : Follower) : Prop where
  switch : alone.switch = follower.switch
  state : (own.state? entityId.text).map State.isOn = (hub.state? entityId.text).map State.isOn
  receivers : follower.receiver = none ∧ alone.receiver = none
    ∨ ∃ receiver other tidings, follower.receiver = some receiver ∧ alone.receiver = some other
      ∧ hub.Awaits receiver tidings
      ∧ own.Awaits other (tidings.filter fun tiding => tiding.1 = entityId)

namespace Alike

variable {entityId : EntityId} {alone : Follower}

theorem isSome_receiver (h : Alike entityId hub own follower alone)
    : alone.receiver.isSome = follower.receiver.isSome := by
  rcases h.receivers with ⟨hnone, halone⟩ | ⟨receiver, other, _, hsome, halone, _⟩
  . rw [hnone, halone]
  . rw [hsome, halone]
    rfl

theorem write_other (h : Alike entityId hub own follower alone) {w : Write}
    (hw : w.entityId ≠ entityId)
    : Alike entityId (hub.write w).2 own follower alone := by
  constructor
  . exact h.switch
  . rw [Hub.state?_evolves_of_ne (hub.evolves_write w) (by simpa using hw)]
    exact h.state
  . refine h.receivers.imp_right ?_
    intro hsome
    obtain ⟨receiver, other, tidings, hreceiver, halone, hawaits, hown⟩ := hsome
    refine ⟨receiver, other, _, hreceiver, halone, hawaits.write w, ?_⟩
    have htiding : w.tiding.1 ≠ entityId := hw
    rw [List.filter_append]
    rw [List.filter_cons_of_neg (by simpa using htiding)]
    rw [List.filter_nil, List.append_nil]
    exact hown

theorem write_own (h : Alike entityId hub own follower alone) {w : Write}
    (hw : w.entityId = entityId)
    : Alike entityId (hub.write w).2 (own.write w).2 follower alone := by
  constructor
  . exact h.switch
  . have hstate : ∀ hub : Hub,
        ((hub.write w).2.state? entityId.text).map State.isOn = some (w.value == State.on) := by
      intro hub
      rw [← Hub.isOn_write hub w, ← hw]
      unfold Hub.write
      rw [Hub.state?_set, if_pos rfl]
      rfl
    rw [hstate, hstate]
  . refine h.receivers.imp_right ?_
    intro hsome
    obtain ⟨receiver, other, tidings, hreceiver, halone, hawaits, hown⟩ := hsome
    refine ⟨receiver, other, _, hreceiver, halone, hawaits.write w, ?_⟩
    have htiding : w.tiding.1 = entityId := hw
    rw [List.filter_append]
    rw [List.filter_cons_of_pos (by simpa using htiding)]
    exact hown.write w

theorem write (h : Alike entityId hub own follower alone) (switch : Switch)
    : Alike entityId hub own { follower with switch } { alone with switch } := by
  exact ⟨rfl, h.state, h.receivers⟩

theorem receive_other (h : Alike entityId hub own follower alone)
    (hfollows : follower.switch.entityId = entityId)
    (hkeeps : ∀ receiver ∈ follower.receiver, hub.bus.lost receiver = 0) {heard : EntityId}
    (hheard : follower.hears? hub = some heard) (hother : heard ≠ entityId)
    : Alike entityId hub own (follower.receive hub.bus) alone := by
  rcases h.receivers with ⟨hnone, _⟩ | ⟨receiver, other, tidings, hreceiver, halone, hawaits, hown⟩
  . unfold hears? at hheard
    rw [hnone] at hheard
    contradiction
  . cases tidings with
    | nil =>
      rw [(receive_of_awaits_nil hreceiver hawaits).1] at hheard
      contradiction
    | cons first rest =>
      obtain ⟨hfirst, next, news, _, hnext, hreceive⟩ :=
        receive_of_awaits_cons hreceiver hawaits (hkeeps receiver hreceiver)
      rw [hfirst] at hheard
      cases hheard
      rw [List.filter_cons_of_neg (by simpa using hother)] at hown
      rw [hfollows, if_neg hother] at hreceive
      rw [hreceive]
      exact ⟨h.switch, h.state, .inr ⟨next, other, rest, rfl, halone, hnext, hown⟩⟩

theorem receive_own (h : Alike entityId hub own follower alone)
    (hfollows : follower.switch.entityId = entityId)
    (hkeeps : ∀ receiver ∈ follower.receiver, hub.bus.lost receiver = 0)
    (hheard : ∀ heard ∈ follower.hears? hub, heard = entityId)
    : Alike entityId hub own (follower.receive hub.bus) (alone.receive own.bus)
        ∧ ∀ receiver ∈ alone.receiver, own.bus.lost receiver = 0 := by
  rcases h.receivers with
    ⟨hnone, halone⟩ | ⟨receiver, other, tidings, hreceiver, halone, hawaits, hown⟩
  . have hfollower : follower.receive hub.bus = follower := by
      unfold receive
      rw [hnone]
    have hsame : alone.receive own.bus = alone := by
      unfold receive
      rw [halone]
    rw [hfollower, hsame, halone]
    exact ⟨h, by simp⟩
  . have hlost := hkeeps receiver hreceiver
    have hkept : own.bus.lost other = 0 := by
      rw [hawaits.lost_eq_zero_iff] at hlost
      rw [hown.lost_eq_zero_iff]
      exact Nat.le_trans (List.length_filter_le _ _) hlost
    refine ⟨?_, by simpa [halone] using hkept⟩
    cases tidings with
    | nil =>
      obtain ⟨_, next, hreceive, hnext⟩ := receive_of_awaits_nil hreceiver hawaits
      obtain ⟨_, next', hreceive', hnext'⟩ := receive_of_awaits_nil halone hown
      rw [hreceive, hreceive']
      exact ⟨h.switch, h.state, .inr ⟨next, next', [], rfl, rfl, hnext, hnext'⟩⟩
    | cons first rest =>
      obtain ⟨hfirst, next, news, hnews, hnext, hreceive⟩ :=
        receive_of_awaits_cons hreceiver hawaits hlost
      have hsame : first.1 = entityId := hheard first.1 hfirst
      rw [List.filter_cons_of_pos (by simpa using hsame)] at hown
      obtain ⟨_, next', news', hnews', hnext', hreceive'⟩ :=
        receive_of_awaits_cons halone hown hkept
      have hfollows' : first.1 = follower.switch.entityId := hsame.trans hfollows.symm
      rw [if_pos hfollows'] at hreceive
      rw [h.switch, if_pos hfollows'] at hreceive'
      rw [hreceive, hreceive']
      refine ⟨?_, h.state, .inr ⟨next, next', rest, rfl, rfl, hnext, hnext'⟩⟩
      exact Switch.reflect_congr (hnews'.trans hnews.symm)

theorem follow (h : Alike entityId hub own follower alone)
    (hfollows : follower.switch.entityId = entityId)
    : Alike entityId hub own (follower.follow hub) (alone.follow own) := by
  constructor
  . unfold Follower.follow
    dsimp only
    rw [h.switch, hfollows]
    exact Switch.reflect_congr h.state
  . exact h.state
  . exact .inr ⟨_, _, [], rfl, rfl, hub.awaits_subscribe, own.awaits_subscribe⟩

theorem stop (h : Alike entityId hub own follower alone)
    : Alike entityId hub own { follower with receiver := none }
        { alone with receiver := none } := by
  exact ⟨h.switch, h.state, .inl ⟨rfl, rfl⟩⟩

end Alike

end Follower

namespace House

def hears? (house : House) (aid : Nat) : Option EntityId :=
  (house.bridge.followers.find? aid).bind (·.hears? house.hub)

/-- An act, and whose command a service obeys with it, if it is the act of a service. -/
structure Deed where
  act : Act
  served : Option Nat := none

def issued (bridge : Bridge) : Act → List (Nat × Request)
  | .write aid characteristic value =>
    ((bridge.commanded? (.write aid characteristic value)).map fun request => (aid, request)).toList
  | _ => []

/-- Services only write the state of the entity that they are called for, and only when called. -/
def Orderly (bridge : Bridge) (given : List (Nat × Request)) : List Deed → Prop
  | [] => True
  | deed :: deeds =>
    (∀ aid ∈ deed.served, ∃ w on, deed.act = .set w ∧ (aid, .move w.entityId on) ∈ given)
      ∧ Orderly bridge (given ++ issued bridge deed.act) deeds

def concerns (house : House) (aid : Nat) (entityId : EntityId) : Act → Bool
  | .set w => w.entityId = entityId
  | .write other _ _ => other = aid
  | .receive other => (house.hears? other).all (· = entityId)
  | .start => true
  | .stop => true

def regards (house : House) (aid : Nat) (entityId : EntityId) (deed : Deed) : Bool :=
  deed.served.all (· = aid) && house.concerns aid entityId deed.act

/--
Some deeds without those that are no business of an accessory: what clients write to others, what
services and anybody else write of other entities, and receptions that tell of them.
-/
def alone (house : House) (aid : Nat) (entityId : EntityId) : List Deed → List Deed
  | [] => []
  | deed :: deeds =>
    let rest := (house.step deed.act).alone aid entityId deeds
    if house.regards aid entityId deed then deed :: rest else rest

def Alike (aid : Nat) (entityId : EntityId) (house own : House) : Prop :=
  ∃ follower alone, house.bridge.followers.find? aid = some follower
    ∧ own.bridge.followers.find? aid = some alone
    ∧ follower.switch.entityId = entityId
    ∧ follower.Alike entityId house.hub own.hub alone

variable {house own : House} {aid : Nat} {entityId : EntityId}

theorem Alike.switch?_eq (h : Alike aid entityId house own)
    : own.bridge.switch? aid = house.bridge.switch? aid := by
  obtain ⟨follower, alone, hfind, halone, _, halike⟩ := h
  unfold switch?
  rw [hfind, halone, Option.map_some, Option.map_some, halike.switch]

theorem keepsUp_cons_iff {act : Act} {acts : List Act}
    : house.KeepsUp aid (act :: acts)
        ↔ (act = .receive aid → ∀ follower ∈ house.bridge.followers.find? aid,
            ∀ receiver ∈ follower.receiver, house.hub.bus.lost receiver = 0)
          ∧ (house.step act).KeepsUp aid acts := by
  cases act with
  | receive other => simp [KeepsUp]
  | _ => simp [KeepsUp]

instance decidableKeepsUp (house : House) (aid : Nat)
    : (acts : List Act) → Decidable (house.KeepsUp aid acts)
  | [] => isTrue trivial
  | .receive other :: acts =>
    have := decidableKeepsUp (house.step (.receive other)) aid acts
    inferInstanceAs (Decidable (_ ∧ (house.step (.receive other)).KeepsUp aid acts))
  | .set w :: acts => decidableKeepsUp (house.step (.set w)) aid acts
  | .write other characteristic value :: acts =>
    decidableKeepsUp (house.step (.write other characteristic value)) aid acts
  | .start :: acts => decidableKeepsUp (house.step .start) aid acts
  | .stop :: acts => decidableKeepsUp (house.step .stop) aid acts

theorem hears?_of_find? {follower : Follower}
    (hfind : house.bridge.followers.find? aid = some follower)
    : house.hears? aid = follower.hears? house.hub := by
  unfold hears?
  rw [hfind]
  rfl

theorem Alike.step (h : Alike aid entityId house own) (hsound : house.Sound) (hown : own.Sound)
    {act : Act} (hconcerns : house.concerns aid entityId act = true)
    (hkeeps : act = .receive aid → ∀ follower ∈ house.bridge.followers.find? aid,
      ∀ receiver ∈ follower.receiver, house.hub.bus.lost receiver = 0)
    : Alike aid entityId (house.step act) (own.step act)
        ∧ (act = .receive aid → ∀ alone ∈ own.bridge.followers.find? aid,
          ∀ receiver ∈ alone.receiver, own.hub.bus.lost receiver = 0) := by
  obtain ⟨follower, alone, hfind, halone, hfollows, halike⟩ := h
  have hrunning : own.bridge.isRunning = house.bridge.isRunning := by
    rw [← hown.isSome_receiver halone, ← hsound.isSome_receiver hfind]
    exact halike.isSome_receiver
  have hentity : (house.after act aid follower).switch.entityId = entityId :=
    (Sound.entityId_after (hsound.follower aid follower hfind) act).trans hfollows
  have hboth : (house.after act aid follower).Alike entityId (house.step act).hub
        (own.step act).hub (own.after act aid alone)
      ∧ (act = .receive aid → ∀ receiver ∈ alone.receiver, own.hub.bus.lost receiver = 0) := by
    cases act with
    | set w => exact ⟨halike.write_own (of_decide_eq_true hconcerns), nofun⟩
    | write other characteristic value =>
      refine ⟨?_, nofun⟩
      rw [hub_step_write, hub_step_write]
      dsimp only [after]
      rw [halike.switch]
      split
      . cases follower.switch.write characteristic value with
        | error e => exact halike
        | ok written => exact halike.write written.1
      . exact halike
    | receive other =>
      dsimp only [after, House.step]
      split
      . next hsame =>
        subst hsame
        dsimp only [concerns] at hconcerns
        rw [hears?_of_find? hfind] at hconcerns
        have hreceive := halike.receive_own hfollows (hkeeps rfl follower hfind)
          (by simpa [Option.all_eq_true] using hconcerns)
        exact ⟨hreceive.1, fun _ => hreceive.2⟩
      . next hother =>
        refine ⟨halike, ?_⟩
        intro hsame
        cases hsame
        contradiction
    | start =>
      refine ⟨?_, nofun⟩
      dsimp only [after, House.step]
      rw [hrunning]
      split
      . exact halike
      . exact halike.follow hfollows
    | stop => exact ⟨halike.stop, nofun⟩
  refine ⟨⟨_, _, find?_step_of_find? hfind act, find?_step_of_find? halone act, hentity,
    hboth.1⟩, ?_⟩
  intro hact other hother
  cases halone.symm.trans hother
  exact hboth.2 hact

theorem Alike.skip (h : Alike aid entityId house own) (hsound : house.Sound) {act : Act}
    (hconcerns : house.concerns aid entityId act = false)
    (hkeeps : act = .receive aid → ∀ follower ∈ house.bridge.followers.find? aid,
      ∀ receiver ∈ follower.receiver, house.hub.bus.lost receiver = 0)
    : Alike aid entityId (house.step act) own := by
  obtain ⟨follower, alone, hfind, halone, hfollows, halike⟩ := h
  have hentity : (house.after act aid follower).switch.entityId = entityId :=
    (Sound.entityId_after (hsound.follower aid follower hfind) act).trans hfollows
  refine ⟨_, alone, find?_step_of_find? hfind act, halone, hentity, ?_⟩
  cases act with
  | set w => exact halike.write_other (of_decide_eq_false hconcerns)
  | write other characteristic value =>
    rw [hub_step_write]
    dsimp only [after]
    rw [if_neg (of_decide_eq_false hconcerns)]
    exact halike
  | receive other =>
    dsimp only [after, House.step]
    split
    . next hsame =>
      subst hsame
      dsimp only [concerns] at hconcerns
      rw [hears?_of_find? hfind] at hconcerns
      have htold : ∃ heard, follower.hears? house.hub = some heard ∧ heard ≠ entityId := by
        simpa [Option.all_eq_false] using hconcerns
      obtain ⟨heard, hheard, hother⟩ := htold
      exact halike.receive_other hfollows (hkeeps rfl follower hfind) hheard hother
    . exact halike
  | start => contradiction
  | stop => contradiction

/-! ### Runs of deeds -/

theorem entityId_of_mem_issued {bridge : Bridge} {act : Act} {on : Bool}
    (h : (aid, .move entityId on) ∈ issued bridge act)
    : (bridge.switch? aid).map Switch.entityId = some entityId := by
  cases act with
  | write other characteristic value =>
    unfold issued commanded? at h
    rw [Option.mem_toList, Option.map_eq_some_iff] at h
    obtain ⟨request, hrequest, hsame⟩ := h
    cases hsame
    obtain ⟨switch, hswitch, hcommand⟩ := Option.bind_eq_some_iff.1 hrequest
    rw [hswitch, Option.map_some, Switch.entityId_of_commanded? hcommand]
  | _ => contradiction

theorem aid_of_mem_issued {bridge : Bridge} {act : Act} {request : Request}
    (h : (aid, request) ∈ issued bridge act)
    : ∃ characteristic value, act = .write aid characteristic value := by
  cases act with
  | write other characteristic value =>
    unfold issued at h
    rw [Option.mem_toList, Option.map_eq_some_iff] at h
    obtain ⟨_, _, hsame⟩ := h
    cases hsame
    exact ⟨characteristic, value, rfl⟩
  | _ => contradiction

def Owns (aid : Nat) (entityId : EntityId) (given : List (Nat × Request)) : Prop :=
  ∀ other on, (other, .move entityId on) ∈ given → other = aid

theorem Owns.append {given more : List (Nat × Request)} (h : Owns aid entityId given)
    (hmore : Owns aid entityId more)
    : Owns aid entityId (given ++ more) := by
  intro other on hmem
  cases List.mem_append.1 hmem with
  | inl hold => exact h other on hold
  | inr hnew => exact hmore other on hnew

theorem Orderly.regards_eq {bridge : Bridge} {given : List (Nat × Request)} {deed : Deed}
    {deeds : List Deed} (h : Orderly bridge given (deed :: deeds)) (howns : Owns aid entityId given)
    : house.regards aid entityId deed = house.concerns aid entityId deed.act := by
  have hserved := h.1
  unfold regards
  cases hcase : deed.served with
  | none => rfl
  | some served =>
    obtain ⟨w, on, hact, hgiven⟩ := hserved served hcase
    rw [hact]
    dsimp only [concerns]
    by_cases hw : w.entityId = entityId
    . rw [hw] at hgiven
      simp [howns served on hgiven]
    . simp [hw]

theorem Alike.run {bridge : Bridge} {given : List (Nat × Request)} {deeds : List Deed}
    (h : Alike aid entityId house own) (hsound : house.Sound) (hown : own.Sound)
    (horderly : Orderly bridge given deeds) (howns : Owns aid entityId given)
    (hissued : ∀ act, Owns aid entityId (issued bridge act))
    (hkeeps : house.KeepsUp aid (deeds.map Deed.act))
    : Alike aid entityId (house.run (deeds.map Deed.act))
          (own.run ((house.alone aid entityId deeds).map Deed.act))
        ∧ own.KeepsUp aid ((house.alone aid entityId deeds).map Deed.act) := by
  induction deeds generalizing house own given with
  | nil => exact ⟨h, trivial⟩
  | cons deed deeds ih =>
    rw [List.map_cons, keepsUp_cons_iff] at hkeeps
    obtain ⟨hfirst, hrest⟩ := hkeeps
    have hlater := sound_step hsound deed.act
    have howns' := howns.append (hissued deed.act)
    unfold alone
    dsimp only
    rw [horderly.regards_eq howns]
    cases hconcerns : house.concerns aid entityId deed.act with
    | true =>
      obtain ⟨hstep, hkept⟩ := h.step hsound hown hconcerns hfirst
      obtain ⟨hrun, hruns⟩ := ih hstep hlater (sound_step hown deed.act) horderly.2 howns' hrest
      rw [if_pos rfl]
      exact ⟨hrun, keepsUp_cons_iff.2 ⟨hkept, hruns⟩⟩
    -- What is left out tells the accessory nothing of its entity, so the houses stay alike.
    | false =>
      rw [if_neg (by decide)]
      exact ih (h.skip hsound hconcerns hfirst) hlater hown horderly.2 howns' hrest

theorem Orderly.alone {bridge : Bridge} {given kept : List (Nat × Request)} {deeds : List Deed}
    (h : Orderly bridge given deeds) (howns : Owns aid entityId given)
    (hissued : ∀ act, Owns aid entityId (issued bridge act))
    (hkept : ∀ request, (aid, request) ∈ given → (aid, request) ∈ kept)
    : Orderly bridge kept (house.alone aid entityId deeds) := by
  induction deeds generalizing house given kept with
  | nil => trivial
  | cons deed deeds ih =>
    have howns' := howns.append (hissued deed.act)
    unfold House.alone
    dsimp only
    split
    . next hregards =>
      refine ⟨?_, ih h.2 howns' ?_⟩
      . intro served hserved
        obtain ⟨w, on, hact, hgiven⟩ := h.1 served hserved
        rw [h.regards_eq howns, hact] at hregards
        have hw : w.entityId = entityId := of_decide_eq_true hregards
        have hsame : served = aid := by
          rw [hw] at hgiven
          exact howns served on hgiven
        rw [hsame] at hgiven ⊢
        exact ⟨w, on, hact, hkept _ hgiven⟩
      . intro request hrequest
        cases List.mem_append.1 hrequest with
        | inl hold => exact List.mem_append_left _ (hkept request hold)
        | inr hnew => exact List.mem_append_right _ hnew
    . next hregards =>
      apply ih h.2 howns'
      intro request hrequest
      cases List.mem_append.1 hrequest with
      | inl hold => exact hkept request hold
      | inr hnew =>
        obtain ⟨characteristic, value, hact⟩ := aid_of_mem_issued hnew
        rw [h.regards_eq howns, hact] at hregards
        exact absurd (decide_eq_true rfl) hregards

def Elsewhere (house : House) (aid : Nat) (entityId : EntityId) : Act → Prop
  | .set _ => True
  | .write other _ _ => other ≠ aid
  | .receive other => other = aid → house.hears? aid ≠ some entityId
  | .start => False
  | .stop => False

theorem switch?_step_of_elsewhere {follower : Follower}
    (hfind : house.bridge.followers.find? aid = some follower) {act : Act}
    (h : house.Elsewhere aid follower.switch.entityId act)
    : (house.step act).bridge.switch? aid = house.bridge.switch? aid := by
  have hswitch : (house.after act aid follower).switch = follower.switch := by
    cases act with
    | set w => rfl
    | write other characteristic value =>
      dsimp only [after]
      rw [if_neg h]
    | receive other =>
      dsimp only [after]
      split
      . next hsame =>
        have hheard := h hsame
        rw [hears?_of_find? hfind] at hheard
        rw [Follower.switch_receive, Follower.news?_of_hears? hheard]
        rfl
      . rfl
    | start => contradiction
    | stop => contradiction
  unfold switch?
  rw [find?_step_of_find? hfind, hfind, Option.map_some, Option.map_some, hswitch]

theorem aid_unique {config : Config} {states : List State} {bridge : Bridge} {hub : Hub}
    (hstates : states.Perm hub.states.values)
    (hbuild : build builtinTypes config states = .ok bridge) {other : Nat}
    (h : (bridge.switch? aid).map Switch.entityId = some entityId)
    (hother : (bridge.switch? other).map Switch.entityId = some entityId)
    : other = aid := by
  obtain ⟨built, ids, hbuilt, hnumbers, hascending, _⟩ := exists_numbers config hstates
  cases hbuild.symm.trans hbuilt
  obtain ⟨switch, hswitch, hentity⟩ := Option.map_eq_some_iff.1 h
  obtain ⟨another, hanother, hsame⟩ := Option.map_eq_some_iff.1 hother
  obtain ⟨hmem, rfl⟩ := (hnumbers.found aid switch).1 hswitch
  obtain ⟨hmem', rfl⟩ := (hnumbers.found other another).1 hanother
  have hdistinct : (bridge.switches.map Switch.entityId).Nodup := by
    rw [hnumbers.entityIds]
    exact EntityId.nodup_of_ascending hascending
  rw [List.inj_on_of_nodup_map hdistinct hmem' hmem (hsame.trans hentity.symm)]

theorem exists_find?_of_run {acts : List Act} {last : Follower}
    (hlast : (house.run acts).bridge.followers.find? aid = some last)
    : ∃ follower, house.bridge.followers.find? aid = some follower := by
  induction acts generalizing house with
  | nil => exact ⟨last, hlast⟩
  | cons act acts ih =>
    obtain ⟨next, hnext⟩ := ih hlast
    rw [find?_step] at hnext
    obtain ⟨follower, hfind, _⟩ := Option.map_eq_some_iff.1 hnext
    exact ⟨follower, hfind⟩

theorem alike_of_drained (hsound : house.Sound) {follower : Follower}
    (hfind : house.bridge.followers.find? aid = some follower)
    (hdrained : follower.unread house.hub.bus = 0)
    : Alike aid follower.switch.entityId house house := by
  refine ⟨follower, follower, hfind, hfind, rfl, rfl, rfl, ?_⟩
  cases hreceiver : follower.receiver with
  | none => exact .inl ⟨rfl, rfl⟩
  | some receiver =>
    obtain ⟨_, _, hqueue⟩ := (hsound.follower aid follower hfind).queue receiver hreceiver
    unfold Follower.unread at hdrained
    rw [hreceiver] at hdrained
    have hawaits := Hub.awaits_nil hqueue.eventType hqueue.within hdrained
    exact .inr ⟨receiver, receiver, [], rfl, rfl, hawaits, hawaits⟩

/--
An accessory with nothing left to read is after a run what it is after the same run without all that
is no business of it. What is left is a run as well, and what is done elsewhere changes nothing.
-/
theorem switch?_run_alone {config : Config} {states : List State} {bridge : Bridge} {hub : Hub}
    (hstates : states.Perm hub.states.values)
    (hbuild : build builtinTypes config states = .ok bridge) {before : List Act}
    (hhouse : run { hub, bridge } before = house) {follower : Follower}
    (hfind : house.bridge.followers.find? aid = some follower)
    (hdrained : follower.unread house.hub.bus = 0) {deeds : List Deed}
    (horderly : Orderly bridge (before.flatMap (issued bridge)) deeds)
    (hkeeps : house.KeepsUp aid (deeds.map Deed.act))
    : let last := house.run (deeds.map Deed.act)
      let own := house.alone aid follower.switch.entityId deeds
      (house.run (own.map Deed.act)).bridge.switch? aid = last.bridge.switch? aid
      ∧ Orderly bridge (before.flatMap (issued bridge)) own
      ∧ house.KeepsUp aid (own.map Deed.act)
      ∧ ∀ act, last.Elsewhere aid follower.switch.entityId act →
        (last.step act).bridge.switch? aid = last.bridge.switch? aid := by
  intro last own
  have hbuilt := sound_of_build hstates hbuild
  have hsound : house.Sound := by
    rw [← hhouse]
    exact sound_run hbuilt before
  have hentity : (bridge.switch? aid).map Switch.entityId = some follower.switch.entityId := by
    rw [← hhouse] at hfind
    obtain ⟨first, hfirst⟩ := exists_find?_of_run hfind
    rw [entityId_run hbuilt hfirst hfind]
    unfold switch?
    rw [show bridge.followers.find? aid = some first from hfirst]
    rfl
  have hissued : ∀ act, Owns aid follower.switch.entityId (issued bridge act) := by
    intro act other on hmem
    exact aid_unique hstates hbuild hentity (entityId_of_mem_issued hmem)
  have howns : Owns aid follower.switch.entityId (before.flatMap (issued bridge)) := by
    intro other on hmem
    obtain ⟨act, _, hact⟩ := List.mem_flatMap.1 hmem
    exact hissued act other on hact
  obtain ⟨halike, hkept⟩ := (alike_of_drained hsound hfind hdrained).run hsound hsound horderly
    howns hissued hkeeps
  refine ⟨halike.switch?_eq, horderly.alone howns hissued fun _ h => h, hkept, ?_⟩
  intro act helsewhere
  obtain ⟨later, _, hlater, _, hfollows, _⟩ := halike
  rw [← hfollows] at helsewhere
  exact switch?_step_of_elsewhere hlater helsewhere

def twoEntities : Hub :=
  [away, Mirror.kitchen].foldl
    (fun hub entityId => (hub.write ⟨entityId, State.off, [], { id := "first" }⟩).2) Hub.simulated

def untouchedSwitch (entityId : EntityId) (displayName : String) (aid : Nat) : Follower where
  switch :=
    { accessory :=
        { displayName
          entityId
          category := switchCategory
          aid
          services :=
            [{ name := informationService
               characteristics :=
                 [⟨nameName, .string, .str displayName⟩,
                  ⟨manufacturerName, .string, .str manufacturer⟩,
                  ⟨modelName, .string, .str switchCategory⟩,
                  ⟨serialNumberName, .string, .str entityId.text⟩] },
             { name := switchService, characteristics := [⟨onName, .bool, .bool false⟩] }] } }

def twoSwitches : Bridge where
  config := {}
  followers :=
    ((∅ : Table Nat Follower).insert 2 (untouchedSwitch away "away" 2)).insert 3
      (untouchedSwitch Mirror.kitchen "kitchen" 3)

theorem build_twoEntities : build builtinTypes {} twoEntities.states.values = .ok twoSwitches := by
  have hexposed : twoEntities.states.values.filter (({} : Config).filter.exposes ·.entityId)
      = twoEntities.states.values := by rfl
  unfold build
  dsimp only
  rw [hexposed]
  rw [List.mergeSort_of_pairwise (by decide +kernel)]
  rfl

def interleaved : List Deed :=
  [{ act := .write 3 onName (.bool true) },
   { act := .write 2 onName (.bool true) },
   { act := .set ⟨away, State.on, [], { id := "second" }⟩, served := some 2 },
   { act := .set (Mirror.kitchenWrite State.on "third"), served := some 3 },
   { act := .receive 2 },
   { act := .receive 3 },
   { act := .set (Mirror.kitchenWrite State.off "fourth") },
   { act := .receive 3 },
   { act := .write 2 nameName (.str "gone") },
   { act := .receive 3 }]

theorem switch?_run_alone_of_two
    : let house := run { hub := twoEntities, bridge := twoSwitches } [.start]
      let own := house.alone 3 Mirror.kitchen interleaved
      build builtinTypes {} twoEntities.states.values = .ok twoSwitches
      ∧ Orderly twoSwitches [] interleaved
      ∧ house.KeepsUp 3 (interleaved.map Deed.act)
      ∧ own.length = 5
      ∧ (house.run (own.map Deed.act)).bridge.switch? 3
        = (house.run (interleaved.map Deed.act)).bridge.switch? 3 := by
  intro house own
  have horderly : Orderly twoSwitches [] interleaved := by
    have haway : issued twoSwitches (.write 2 onName (.bool true))
        = [(2, .move away true)] := by rfl
    have hkitchen : issued twoSwitches (.write 3 onName (.bool true))
        = [(3, .move Mirror.kitchen true)] := by rfl
    unfold interleaved
    refine ⟨nofun, nofun, ?_, ?_, nofun, nofun, nofun, nofun, nofun, nofun, trivial⟩
    . intro aid haid
      cases haid
      rw [hkitchen, haway]
      exact ⟨_, true, rfl, by simp⟩
    . intro aid haid
      cases haid
      rw [hkitchen, haway]
      exact ⟨_, true, rfl, by simp [Mirror.kitchenWrite]⟩
  have hkeeps : house.KeepsUp 3 (interleaved.map Deed.act) := by decide +kernel
  have hfollower : ∃ follower, house.bridge.followers.find? 3 = some follower
      ∧ follower.switch.entityId = Mirror.kitchen ∧ follower.unread house.hub.bus = 0 := by
    exact ⟨_, rfl, rfl, by decide +kernel⟩
  obtain ⟨follower, hfind, hentity, hdrained⟩ := hfollower
  have halone := (switch?_run_alone (List.Perm.refl _) build_twoEntities rfl hfind hdrained
    horderly hkeeps).1
  rw [hentity] at halone
  exact ⟨build_twoEntities, horderly, hkeeps, by decide +kernel, halone⟩

end House

end HomeHub.Bridge
