import HomeHub.Proofs.Bridge.Mirror
import HomeHub.Proofs.Bridge.House

/-!
Which services a bridge calls: only those that its clients command, each of them once. What it hears
of its entities, and what it shows of them, never becomes a call.
-/

namespace HomeHub.Bridge

/-! ### A single switch -/

namespace Switch

def commanded? (switch : Switch) (characteristic : String) : Json → Option Request
  | .bool on =>
    if characteristic = onName then
      some
        { domain := switch.entityId.domain
          service := if on then "turn_on" else "turn_off"
          data := .obj [("entity_id", .str switch.entityId.text)] }
    else none
  | _ => none

theorem commanded?_of_ne {characteristic : String} (h : characteristic ≠ onName) (switch : Switch)
    (value : Json)
    : switch.commanded? characteristic value = none := by
  cases value with
  | bool on => exact if_neg h
  | _ => rfl

theorem write_commands {switch : Switch} {shown : Bool} (hon : switch.accessory.IsOn shown)
    (characteristic : String) (value : Json)
    : (∃ written, switch.write characteristic value
          = .ok (written, switch.commanded? characteristic value))
        ∨ switch.commanded? characteristic value = none
          ∧ ∃ e, switch.write characteristic value = .error e := by
  by_cases hname : characteristic = onName
  . subst hname
    cases value with
    | bool on =>
      obtain ⟨written, hwrite, _⟩ := write_on hon on
      left
      exact ⟨written, hwrite⟩
    | _ =>
      right
      refine ⟨rfl, ?_⟩
      unfold write Accessory.store
      unfold Accessory.IsOn at hon
      rw [hon]
      exact ⟨_, rfl⟩
  . rw [commanded?_of_ne hname]
    cases hstore : switch.accessory.store characteristic value with
    | error e =>
      right
      refine ⟨rfl, e, ?_⟩
      unfold write
      rw [hstore]
      rfl
    | ok stored =>
      left
      refine ⟨{ switch with accessory := stored }, ?_⟩
      unfold write
      rw [hstore]
      dsimp only [bind, Except.bind, pure, Except.pure]
      rw [if_neg hname]

theorem setValue_calls_nothing {switch pushed : Switch} {characteristic : String} {value : Json}
    {request : Option Request}
    (h : switch.setValue characteristic value false = .ok (pushed, request))
    : request = none := by
  unfold setValue at h
  rw [if_neg (by decide)] at h
  cases hstore : switch.accessory.store characteristic value with
  | error e =>
    rw [hstore] at h
    contradiction
  | ok stored =>
    rw [hstore] at h
    cases h
    rfl

theorem update_calls_nothing (switch : Switch) (news : Option State)
    : (switch.update news).2 = none := by
  cases news with
  | none => rfl
  | some state =>
    unfold update
    cases hawaiting : switch.awaiting with
    | true => rfl
    | false =>
      cases hpush : switch.setValue onName (.bool state.isOn) false with
      | error e => simp [hpush]
      | ok pushed => simpa [hpush] using setValue_calls_nothing hpush

end Switch

/-! ### A house -/

def commanded? (bridge : Bridge) : House.Act → Option Request
  | .write aid characteristic value =>
    (bridge.switch? aid).bind (·.commanded? characteristic value)
  | _ => none

def noted (answer : List Request → Except ServiceError Unit) (request : Request)
    : StateM (List Request) (Except ServiceError Unit) := do
  modify (· ++ [request])
  return answer (← get)

def House.pushed (house : House) : House.Act → List Request
  | .receive aid =>
    ((house.bridge.followers.find? aid).bind fun follower =>
      (follower.switch.update (follower.news? house.hub)).2).toList
  | .start =>
    if house.bridge.isRunning then []
    else
      house.bridge.switches.filterMap fun switch =>
        (switch.update (house.hub.state? switch.entityId.text)).2
  | _ => []

structure Traced where
  house : House
  calls : List Request := []

namespace Traced

variable (answer : List Request → Except ServiceError Unit)

def step (traced : Traced) (act : House.Act) : Traced where
  house := traced.house.step act
  calls :=
    match act with
    | .write aid characteristic value =>
      (traced.house.bridge.write (noted answer) aid characteristic value traced.calls).2
    | act => traced.calls ++ traced.house.pushed act

def run (traced : Traced) (acts : List House.Act) : Traced :=
  acts.foldl (step answer) traced

theorem house_run (traced : Traced) (acts : List House.Act)
    : (traced.run answer acts).house = traced.house.run acts := by
  induction acts generalizing traced with
  | nil => rfl
  | cons act acts ih => exact ih (traced.step answer act)

theorem pushed_eq_nil (house : House) (act : House.Act) : house.pushed act = [] := by
  cases act with
  | receive aid =>
    dsimp only [House.pushed]
    cases house.bridge.followers.find? aid with
    | none => rfl
    | some follower =>
      rw [Option.bind_some, Switch.update_calls_nothing]
      rfl
  | start =>
    dsimp only [House.pushed]
    split
    . rfl
    . rw [List.filterMap_eq_nil_iff]
      intro switch _
      apply Switch.update_calls_nothing
  | _ => rfl

theorem calls_write {house : House} (h : house.Sound) (calls : List Request) (aid : Nat)
    (characteristic : String) (value : Json)
    : (house.bridge.write (noted answer) aid characteristic value calls).2
        =
      calls ++ (house.bridge.commanded? (.write aid characteristic value)).toList := by
  unfold Bridge.write beginWrite commanded? switch?
  dsimp only
  cases hfind : house.bridge.followers.find? aid with
  | none => exact (List.append_nil calls).symm
  | some follower =>
    obtain ⟨shown, hon⟩ := (h.follower aid follower hfind).isOn
    dsimp only [Option.map, Option.bind_some]
    cases Switch.write_commands hon characteristic value with
    | inl hwritten =>
      obtain ⟨written, hwrite⟩ := hwritten
      rw [hwrite]
      dsimp only [Except.map]
      cases follower.switch.commanded? characteristic value with
      | none => exact (List.append_nil calls).symm
      | some request => rfl
    | inr hrefused =>
      obtain ⟨hnone, e, hwrite⟩ := hrefused
      rw [hwrite, hnone]
      exact (List.append_nil calls).symm

theorem calls_step {traced : Traced} (h : traced.house.Sound) (act : House.Act)
    : (traced.step answer act).calls
        =
      traced.calls ++ (traced.house.bridge.commanded? act).toList := by
  cases act with
  | write aid characteristic value => exact calls_write answer h _ _ _ _
  | _ =>
    dsimp only [step]
    rw [pushed_eq_nil]
    rfl

theorem commanded?_step {house : House} (h : house.Sound) (act : House.Act)
    : (house.step act).bridge.commanded? = house.bridge.commanded? := by
  funext other
  cases other with
  | write aid characteristic value =>
    unfold commanded? switch?
    dsimp only
    rw [House.find?_step]
    cases hfind : house.bridge.followers.find? aid with
    | none => rfl
    | some follower =>
      have hentity : (house.after act aid follower).switch.entityId = follower.switch.entityId :=
        House.Sound.entityId_after (h.follower aid follower hfind) act
      dsimp only [Option.map, Option.bind_some]
      unfold Switch.commanded?
      rw [hentity]
  | _ => rfl

theorem calls_run_of_sound {traced : Traced} (h : traced.house.Sound) (acts : List House.Act)
    : (traced.run answer acts).calls
        =
      traced.calls ++ acts.filterMap traced.house.bridge.commanded? := by
  induction acts generalizing traced with
  | nil => exact (List.append_nil _).symm
  | cons act acts ih =>
    have hsound : (traced.step answer act).house.Sound := House.sound_step h act
    have hsame : (traced.step answer act).house.bridge.commanded?
        = traced.house.bridge.commanded? := commanded?_step h act
    have hrest := ih hsound
    rw [calls_step answer h, hsame] at hrest
    unfold run at hrest ⊢
    rw [List.foldl_cons, hrest, List.filterMap_cons]
    cases traced.house.bridge.commanded? act with
    | none => simp
    | some request => simp

theorem calls_run_eq_commanded {hub : Hub} {config : Config} {states : List State} {bridge : Bridge}
    (hstates : states.Perm hub.states.values)
    (hbuild : build builtinTypes config states = .ok bridge) (acts : List House.Act)
    : (run answer { house := { hub, bridge } } acts).house = House.run { hub, bridge } acts
        ∧ (run answer { house := { hub, bridge } } acts).calls
          = acts.filterMap bridge.commanded? := by
  constructor
  . apply house_run
  . apply calls_run_of_sound answer (House.sound_of_build hstates hbuild)

def mixedActs : List House.Act :=
  [.start, .write 2 onName (.bool true), .set (Mirror.kitchenWrite State.on "second"), .receive 2,
   .write 2 onName (.str "off"), .write 2 nameName (.str "lamp"), .write 3 onName (.bool true),
   .set (Mirror.kitchenWrite State.off "third"), .receive 2, .stop, .write 2 onName (.bool false)]

theorem calls_run_two_commands
    : Mirror.kitchenHub.states.values.Perm Mirror.kitchenHub.states.values
      ∧ build builtinTypes {} Mirror.kitchenHub.states.values = .ok Mirror.kitchenBridge
      ∧ (run (fun _ => .error (.callFailed "out of order"))
          { house := { hub := Mirror.kitchenHub, bridge := Mirror.kitchenBridge } } mixedActs).calls
        = [.move Mirror.kitchen true, .move Mirror.kitchen false] := by
  have hcalls := (calls_run_eq_commanded (fun _ => .error (.callFailed "out of order"))
    (List.Perm.refl _) Mirror.build_kitchenHub mixedActs).2
  refine ⟨List.Perm.refl _, Mirror.build_kitchenHub, ?_⟩
  rw [hcalls]
  rfl

end Traced

end HomeHub.Bridge
