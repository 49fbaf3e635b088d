import HomeHub.Proofs.Gateway.Report

/-!
What the commands of a lamp are about. A lamp is addressed by what the gateway last reported of it,
so whatever device or group an observation is answered with gets all later commands.
-/

namespace HomeHub.Gateway

open Light (TurnOnParams)

inductive Target where
  | device (id : UInt64)
  | group (id : UInt64)
  deriving DecidableEq

def Command.target? : Command → Option Target
  | .listDevices => none
  | .listGroups => none
  | .getDevice id => some (.device id)
  | .observeDevice id => some (.device id)
  | .light id _ => some (.device id)
  | .getGroup id => some (.group id)
  | .observeGroup id => some (.group id)
  | .group id _ => some (.group id)

/--
What is addressed after an answer to an observation. A device is told from the report of a device
that is a light, a group from the report of a group, and neither from anything else.
-/
def Target.answered (target : Target) (answer : Except Error Response) : Target :=
  match target, answer with
  | .device id, .ok (.device report) => .device (if report.isDark then id else report.id)
  | .group _, .ok (.group report) => .group report.id
  | target, _ => target

namespace Lamp

def target (lamp : Lamp) : Target :=
  match lamp.resource with
  | .device snapshot => .device snapshot.deviceId
  | .group group => .group group.id

def Takes (lamp : Lamp) : Action → Prop
  | .light _ => lamp.target = .device lamp.id
  | .group _ => lamp.target = .group lamp.id

theorem target?_observeCommand (lamp : Lamp) : lamp.observeCommand.target? = some lamp.target := by
  unfold observeCommand target
  cases lamp.resource with
  | device snapshot => rfl
  | group group => rfl

theorem target?_address {lamp : Lamp} {action : Action} (h : lamp.Takes action)
    : (lamp.address action).target? = some lamp.target := by
  cases action with
  | light action =>
    rw [show lamp.target = .device lamp.id from h]
    rfl
  | group action =>
    rw [show lamp.target = .group lamp.id from h]
    rfl

theorem takes_light_iff {lamp : Lamp} {action : LightAction}
    : lamp.Takes (.light action) ↔ ∃ snapshot, lamp.resource = .device snapshot := by
  unfold Takes target id
  cases lamp.resource with
  | device snapshot => simp
  | group group => simp

theorem takes_group_iff {lamp : Lamp} {action : GroupAction}
    : lamp.Takes (.group action) ↔ ∃ group, lamp.resource = .group group := by
  unfold Takes target id
  cases lamp.resource with
  | device snapshot => simp
  | group group => simp

theorem takes_of_mem_turnOnPlan {lamp : Lamp} {params : TurnOnParams} {action : Action}
    (h : action ∈ lamp.turnOnPlan params)
    : lamp.Takes action := by
  unfold turnOnPlan at h
  split at h
  . next hresource =>
    obtain ⟨_, _, rfl⟩ := List.mem_map.1 h
    exact takes_light_iff.2 ⟨_, hresource⟩
  . next hresource =>
    rw [List.mem_singleton.1 h]
    exact takes_group_iff.2 ⟨_, hresource⟩

theorem takes_of_mem_turnOffPlan {lamp : Lamp} {action : Action} (h : action ∈ lamp.turnOffPlan)
    : lamp.Takes action := by
  unfold turnOffPlan at h
  split at h
  . next hresource =>
    rw [List.mem_singleton.1 h]
    exact takes_light_iff.2 ⟨_, hresource⟩
  . next hresource =>
    rw [List.mem_singleton.1 h]
    exact takes_group_iff.2 ⟨_, hresource⟩

theorem deviceId_ofDevice {device : Device} {snapshot : Snapshot}
    (h : Snapshot.ofDevice device = .ok snapshot)
    : snapshot.deviceId = device.id := by
  unfold Snapshot.ofDevice at h
  split at h
  . contradiction
  . split at h
    . contradiction
    . cases h
      rfl

variable {lamp : Lamp} {answer : Except Error Response}

theorem answered_of_fails (h : lamp.fails answer = true)
    : lamp.target.answered answer = lamp.target := by
  unfold fails at h
  unfold target Target.answered
  cases hresource : lamp.resource with
  | device snapshot =>
    rw [hresource] at h
    dsimp only
    split
    . next device hsame =>
      cases hsame
      have hdark : device.isDark = true := h
      rw [if_pos hdark]
    . contradiction
    . rfl
  | group group =>
    rw [hresource] at h
    dsimp only
    split
    . contradiction
    . contradiction
    . rfl

theorem exists_applyUpdate_of_not_fails (h : lamp.fails answer = false)
    : ∃ other, answer >>= lamp.applyUpdate = .ok other
        ∧ other.target = lamp.target.answered answer
        ∧ ∀ action, lamp.Takes action → other.Takes action := by
  unfold fails at h
  unfold target Target.answered
  cases hresource : lamp.resource with
  | device snapshot =>
    rw [hresource] at h
    obtain ⟨device, rfl, hlit⟩ := exists_of_not_failsDevice h
    obtain ⟨shown, hshown⟩ := ofDevice_of_not_isDark hlit
    refine ⟨_, applyUpdate_device hresource hshown, ?_, ?_⟩
    . dsimp only
      rw [hlit, deviceId_ofDevice hshown]
      rfl
    . intro action htakes
      cases action with
      | light action => exact takes_light_iff.2 ⟨shown, rfl⟩
      | group action =>
        obtain ⟨group, hgroup⟩ := takes_group_iff.1 htakes
        rw [hresource] at hgroup
        contradiction
  | group group =>
    rw [hresource] at h
    obtain ⟨shown, rfl⟩ := exists_of_not_failsGroup h
    refine ⟨_, applyUpdate_group hresource shown, rfl, ?_⟩
    intro action htakes
    cases action with
    | group action => exact takes_group_iff.2 ⟨shown, rfl⟩
    | light action =>
      obtain ⟨snapshot, hsnapshot⟩ := takes_light_iff.1 htakes
      rw [hresource] at hsnapshot
      contradiction

theorem react_cases (lamp : Lamp) (failures : Nat) (answer : Except Error Response)
    : (∃ other, lamp.react failures answer = .updated other
          ∧ other.target = lamp.target.answered answer
          ∧ ∀ action, lamp.Takes action → other.Takes action)
        ∨ lamp.target.answered answer = lamp.target
          ∧ ((∃ failed delay, lamp.react failures answer = .retry failed delay)
            ∨ lamp.react failures answer = .gaveUp lamp.giveUp) := by
  unfold react
  cases hfails : lamp.fails answer with
  | false =>
    obtain ⟨other, hother, htarget, htakes⟩ := exists_applyUpdate_of_not_fails hfails
    rw [hother]
    exact .inl ⟨other, rfl, htarget, htakes⟩
  | true =>
    obtain ⟨e, he⟩ := applyUpdate_of_fails hfails
    rw [he]
    refine .inr ⟨answered_of_fails hfails, ?_⟩
    dsimp only
    split
    . exact .inr rfl
    . exact .inl ⟨_, _, rfl⟩

end Lamp

/-! ### Lamps and their gateway -/

inductive Entry where
  | sent (command : Command)
  | heard (answer : Except Error Response)

structure Watch where
  failures : Nat := 0
  asked : Bool := false

structure Dialogue where
  lamp : Lamp
  watches : List Watch := []
  calls : List (List Action) := []
  history : List Entry := []

inductive Turn where
  | watch
  | observe (position : Nat)
  | answer (position : Nat) (answer : Except Error Response)
  | turnOn (params : TurnOnParams)
  | turnOff
  | send (position : Nat) (answer : Except Error Response)
  | stop

namespace Dialogue

def post (answer : Except Error Response) (command : Command) (history : List Entry) :
    Except Error Response × List Entry :=
  (answer, history ++ [.sent command])

def step (d : Dialogue) : Turn → Dialogue
  | .watch => { d with watches := d.watches ++ [{}] }
  | .observe position =>
    match d.watches[position]? with
    | some { failures, asked := false } =>
      { d with
        watches := d.watches.set position { failures, asked := true }
        history := d.history ++ [.sent d.lamp.observeCommand] }
    | _ => d
  | .answer position answer =>
    match d.watches[position]? with
    | some { failures, asked := true } =>
      let history := d.history ++ [.heard answer]
      match d.lamp.react failures answer with
      | .updated lamp => { d with lamp, watches := d.watches.set position {}, history }
      | .retry failures _ => { d with watches := d.watches.set position { failures }, history }
      | .gaveUp lamp => { d with lamp, watches := d.watches.eraseIdx position, history }
    | _ => d
  | .turnOn params => { d with calls := d.calls ++ [d.lamp.turnOnPlan params] }
  | .turnOff => { d with calls := d.calls ++ [d.lamp.turnOffPlan] }
  | .send position answer =>
    match d.calls[position]? with
    | some (action :: rest) =>
      match Lamp.send (post answer) (fun _ => d.lamp) [action] d.history with
      | (.ok (), history) => { d with calls := d.calls.set position rest, history }
      | (.error _, history) => { d with calls := d.calls.set position [], history }
    | _ => d
  | .stop => { d with watches := [] }

def run (d : Dialogue) (turns : List Turn) : Dialogue :=
  turns.foldl step d

def turned (target : Target) : List Entry → Target
  | [] => target
  | .sent _ :: rest => turned target rest
  | .heard answer :: rest => turned (target.answered answer) rest

def Addresses (target : Target) : List Entry → Prop
  | [] => True
  | .sent command :: rest => command.target? = some target ∧ Addresses target rest
  | .heard answer :: rest => Addresses (target.answered answer) rest

theorem turned_append (target : Target) (history more : List Entry)
    : turned target (history ++ more) = turned (turned target history) more := by
  induction history generalizing target with
  | nil => rfl
  | cons entry rest ih =>
    cases entry with
    | sent command => apply ih
    | heard answer => apply ih

theorem addresses_append {target : Target} {history more : List Entry}
    : Addresses target (history ++ more)
        ↔ Addresses target history ∧ Addresses (turned target history) more := by
  induction history generalizing target with
  | nil => simp [Addresses, turned]
  | cons entry rest ih =>
    cases entry with
    | sent command =>
      simp only [List.cons_append, Addresses, turned, ih, and_assoc]
    | heard answer => apply ih

theorem target?_of_addresses {target : Target} {history : List Entry}
    (h : Addresses target history)
    (hheard : ∀ answer, .heard answer ∈ history → target.answered answer = target)
    {command : Command} (hsent : .sent command ∈ history)
    : command.target? = some target := by
  induction history with
  | nil => contradiction
  | cons entry rest ih =>
    have hrest : ∀ answer, .heard answer ∈ rest → target.answered answer = target := by
      intro answer hanswer
      exact hheard answer (List.mem_cons_of_mem _ hanswer)
    cases entry with
    | sent other =>
      cases hsent with
      | head => exact h.1
      | tail _ hsent => exact ih h.2 hrest hsent
    | heard answer =>
      unfold Addresses at h
      rw [hheard answer List.mem_cons_self] at h
      cases hsent with
      | tail _ hsent => exact ih h hrest hsent

structure Inv (target : Target) (d : Dialogue) : Prop where
  addresses : Addresses target d.history
  target_eq : turned target d.history = d.lamp.target
  takes : ∀ call ∈ d.calls, ∀ action ∈ call, d.lamp.Takes action

namespace Inv

variable {target : Target} {d : Dialogue}

theorem send (h : Inv target d) {command : Command}
    (hcommand : command.target? = some d.lamp.target)
    : Inv target { d with history := d.history ++ [.sent command] } := by
  constructor
  . rw [addresses_append, h.target_eq]
    exact ⟨h.addresses, hcommand, trivial⟩
  . rw [turned_append, h.target_eq]
    rfl
  . exact h.takes

theorem hear (h : Inv target d) {lamp : Lamp} {answer : Except Error Response}
    (hlamp : lamp.target = d.lamp.target.answered answer)
    (htakes : ∀ action, d.lamp.Takes action → lamp.Takes action)
    : Inv target { d with lamp, history := d.history ++ [.heard answer] } := by
  constructor
  . rw [addresses_append]
    exact ⟨h.addresses, trivial⟩
  . rw [turned_append, h.target_eq]
    exact hlamp.symm
  . intro call hcall action haction
    exact htakes action (h.takes call hcall action haction)

theorem plan (h : Inv target d) {call : List Action} (hcall : ∀ action ∈ call, d.lamp.Takes action)
    : Inv target { d with calls := d.calls ++ [call] } := by
  refine ⟨h.addresses, h.target_eq, ?_⟩
  intro other hother
  rw [List.mem_append, List.mem_singleton] at hother
  cases hother with
  | inl hold => exact h.takes other hold
  | inr hnew =>
    rw [hnew]
    exact hcall

theorem shorten (h : Inv target d) {position : Nat} {call rest : List Action}
    (hcall : d.calls[position]? = some call) (hrest : rest ⊆ call)
    : Inv target { d with calls := d.calls.set position rest } := by
  refine ⟨h.addresses, h.target_eq, ?_⟩
  intro other hother
  cases List.mem_or_eq_of_mem_set hother with
  | inl hold => exact h.takes other hold
  | inr hnew =>
    rw [hnew]
    intro action haction
    exact h.takes call (List.mem_of_getElem? hcall) action (hrest haction)

theorem watches (h : Inv target d) (watches : List Watch) : Inv target { d with watches } := by
  exact ⟨h.addresses, h.target_eq, h.takes⟩

end Inv

theorem inv_step {target : Target} {d : Dialogue} (h : Inv target d) (turn : Turn)
    : Inv target (d.step turn) := by
  cases turn with
  | watch => exact h.watches _
  | observe position =>
    dsimp only [step]
    split
    . exact (h.send d.lamp.target?_observeCommand).watches _
    . exact h
  | answer position answer =>
    dsimp only [step]
    split
    . next failures _ =>
      rcases d.lamp.react_cases failures answer with
        ⟨other, hreact, htarget, htakes⟩ | ⟨hsame, ⟨_, _, hreact⟩ | hreact⟩
      . rw [hreact]
        exact (h.hear htarget htakes).watches _
      . rw [hreact]
        exact (h.hear hsame.symm fun _ htakes => htakes).watches _
      . rw [hreact]
        have htarget : d.lamp.giveUp.target = d.lamp.target.answered answer := hsame.symm
        exact (h.hear htarget fun _ htakes => htakes).watches _
    . exact h
  | turnOn params => exact h.plan fun _ => Lamp.takes_of_mem_turnOnPlan
  | turnOff => exact h.plan fun _ => Lamp.takes_of_mem_turnOffPlan
  | send position answer =>
    dsimp only [step]
    split
    . next action rest hcall =>
      have htakes : d.lamp.Takes action :=
        h.takes _ (List.mem_of_getElem? hcall) action List.mem_cons_self
      have hsent := h.send (Lamp.target?_address htakes)
      cases answer with
      | error e => exact hsent.shorten hcall (List.nil_subset _)
      | ok response => exact hsent.shorten hcall (List.subset_cons_self _ _)
    . exact h
  | stop => exact h.watches _

theorem inv_run {target : Target} {d : Dialogue} (h : Inv target d) (turns : List Turn)
    : Inv target (d.run turns) := by
  induction turns generalizing d with
  | nil => exact h
  | cons turn turns ih => exact ih (inv_step h turn)

/-- Every command is about what the last good answer told of, and about the first one before it. -/
theorem addresses_run (lamp : Lamp) (turns : List Turn)
    : let d := run { lamp } turns
      Addresses lamp.target d.history
      ∧ d.lamp.target = turned lamp.target d.history
      ∧ ((∀ answer, .heard answer ∈ d.history → lamp.target.answered answer = lamp.target) →
        ∀ command, .sent command ∈ d.history → command.target? = some lamp.target) := by
  intro d
  have hstart : Inv lamp.target { lamp } := by
    refine ⟨trivial, rfl, ?_⟩
    intro call hcall
    contradiction
  have hinv : Inv lamp.target d := inv_run hstart turns
  refine ⟨hinv.addresses, hinv.target_eq.symm, ?_⟩
  intro hheard command hsent
  exact target?_of_addresses hinv.addresses hheard hsent

def bulb : Device where
  id := 65537
  name := "Kitchen"
  lightControl := some { lights := [{}] }

def sameIdTurns : List Turn :=
  [.watch, .observe 0, .turnOn { colorTemp := some 370 }, .send 0 (.ok .ack),
   .answer 0 (.ok (.device { bulb with reachable := false })), .observe 0, .send 0 (.ok .ack),
   .answer 0 (.error (.gateway "offline")), .observe 0]

theorem addresses_run_same_id
    : ∃ lamp, Lamp.ofDevice bulb = .ok lamp
      ∧ (∀ answer, .heard answer ∈ (run { lamp } sameIdTurns).history →
        lamp.target.answered answer = lamp.target)
      ∧ (run { lamp } sameIdTurns).history.length = 7
      ∧ ∀ command, .sent command ∈ (run { lamp } sameIdTurns).history →
        command.target? = some (.device 65537) := by
  have hhistory : ∃ lamp, Lamp.ofDevice bulb = .ok lamp ∧ lamp.target = .device 65537
      ∧ (run { lamp } sameIdTurns).history
        = [.sent (.observeDevice 65537), .sent (.light 65537 (.setColorTemp 370 none)),
          .heard (.ok (.device { bulb with reachable := false })), .sent (.observeDevice 65537),
          .sent (.light 65537 (.setState true)), .heard (.error (.gateway "offline")),
          .sent (.observeDevice 65537)] := by
    exact ⟨_, rfl, rfl, rfl⟩
  obtain ⟨lamp, hlamp, htarget, hhistory⟩ := hhistory
  have hheard : ∀ answer, .heard answer ∈ (run { lamp } sameIdTurns).history →
      lamp.target.answered answer = lamp.target := by
    intro answer hanswer
    rw [htarget]
    simp only [hhistory, List.mem_cons, reduceCtorEq, Entry.heard.injEq, List.not_mem_nil,
      false_or, or_false] at hanswer
    rcases hanswer with rfl | rfl
    . rfl
    . rfl
  have hsent := (addresses_run lamp sameIdTurns).2.2 hheard
  rw [htarget] at hsent
  exact ⟨lamp, hlamp, hheard, by rw [hhistory]; rfl, hsent⟩

def otherIdTurns : List Turn :=
  [.watch, .observe 0, .turnOn { colorTemp := some 370 }, .send 0 (.ok .ack),
   .answer 0 (.ok (.device { bulb with id := 65538 })), .send 0 (.ok .ack), .observe 0]

theorem not_addresses_run_other_id
    : ∃ lamp, Lamp.ofDevice bulb = .ok lamp ∧ lamp.target = .device 65537
      ∧ .sent (.light 65538 (.setState true)) ∈ (run { lamp } otherIdTurns).history
      ∧ .sent (.observeDevice 65538) ∈ (run { lamp } otherIdTurns).history
      ∧ ¬ ∀ command, .sent command ∈ (run { lamp } otherIdTurns).history →
        command.target? = some lamp.target := by
  have hhistory : ∃ lamp, Lamp.ofDevice bulb = .ok lamp ∧ lamp.target = .device 65537
      ∧ (run { lamp } otherIdTurns).history
        = [.sent (.observeDevice 65537), .sent (.light 65537 (.setColorTemp 370 none)),
          .heard (.ok (.device { bulb with id := 65538 })), .sent (.light 65538 (.setState true)),
          .sent (.observeDevice 65538)] := by
    exact ⟨_, rfl, rfl, rfl⟩
  obtain ⟨lamp, hlamp, htarget, hhistory⟩ := hhistory
  refine ⟨lamp, hlamp, htarget, ?_⟩
  rw [hhistory]
  refine ⟨by simp, by simp, ?_⟩
  intro h
  have hlast := h (.observeDevice 65538) (by simp)
  rw [htarget] at hlast
  exact absurd hlast (by decide)

end Dialogue

end HomeHub.Gateway
