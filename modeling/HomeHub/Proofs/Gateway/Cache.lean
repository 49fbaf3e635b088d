import HomeHub.Proofs.Gateway.Job
import HomeHub.Proofs.Gateway.Report

/-!
What a lamp shows after some events: it shows what a lamp does that is made of the last report it
took, but is not available once it has been given up.
-/

namespace HomeHub.Gateway

open Light (TurnOnParams)

/-! ### Reports -/

inductive Kind where
  | device
  | group

inductive Report : Kind → Type where
  | device (d : Device) : Report .device
  | group (g : Group) : Report .group

def Resource.kind : Resource → Kind
  | .device _ => .device
  | .group _ => .group

variable {k : Kind}

namespace Report

def isDark : Report k → Bool
  | .device d => d.isDark
  | .group _ => false

def isReachable : Report k → Bool
  | .device d => d.reachable
  | .group _ => true

def resource : Report k → Except Error Resource
  | .device d => (Snapshot.ofDevice d).map .device
  | .group g => .ok (.group g)

def lamp (retry : RetryPolicy) : Report k → Except Error Lamp
  | .device d => Lamp.ofDevice d retry
  | .group g => .ok (Lamp.ofGroup g retry)

def refresh (lamp : Lamp) : Report k → Except Error Lamp
  | .device d => lamp.refreshDevice d
  | .group g => .ok (lamp.refreshGroup g)

theorem lamp_eq_map (report : Report k) (retry : RetryPolicy)
    : report.lamp retry = report.resource.map fun resource => { resource, retry } := by
  cases report with
  | device d =>
    dsimp only [lamp, resource, Lamp.ofDevice]
    cases Snapshot.ofDevice d with
    | error e => rfl
    | ok snapshot => rfl
  | group g => rfl

theorem refresh_eq_map (report : Report k) (lamp : Lamp)
    : report.refresh lamp = report.resource.map fun resource => { lamp with resource } := by
  cases report with
  | device d =>
    dsimp only [refresh, resource, Lamp.refreshDevice]
    cases Snapshot.ofDevice d with
    | error e => rfl
    | ok snapshot => rfl
  | group g => rfl

theorem resource_of_isDark {report : Report k} (h : report.isDark = true)
    : ∃ e, report.resource = .error e := by
  cases report with
  | device d =>
    refine ⟨.notALight d.id, ?_⟩
    dsimp only [resource]
    rw [Lamp.ofDevice_of_isDark h]
    rfl
  | group g => contradiction

theorem resource_of_not_isDark {report : Report k} (h : report.isDark = false)
    : ∃ resource, report.resource = .ok resource := by
  cases report with
  | device d =>
    obtain ⟨snapshot, hsnapshot⟩ := Lamp.ofDevice_of_not_isDark h
    refine ⟨.device snapshot, ?_⟩
    dsimp only [resource]
    rw [hsnapshot]
    rfl
  | group g => exact ⟨.group g, rfl⟩

theorem exists_snapshot_of_resource {d : Device} {resource : Resource}
    (h : (Report.device d).resource = .ok resource)
    : ∃ snapshot, Snapshot.ofDevice d = .ok snapshot ∧ resource = .device snapshot := by
  dsimp only [Report.resource] at h
  cases hsnapshot : Snapshot.ofDevice d with
  | error e =>
    rw [hsnapshot] at h
    contradiction
  | ok snapshot =>
    rw [hsnapshot] at h
    cases h
    exact ⟨snapshot, rfl, rfl⟩

theorem kind_of_resource {report : Report k} {resource : Resource}
    (h : report.resource = .ok resource)
    : resource.kind = k := by
  cases report with
  | device d =>
    obtain ⟨snapshot, _, rfl⟩ := exists_snapshot_of_resource h
    rfl
  | group g =>
    cases h
    rfl

theorem reachable_ofDevice {d : Device} {snapshot : Snapshot}
    (h : Snapshot.ofDevice d = .ok snapshot)
    : snapshot.reachable = d.reachable := by
  unfold Snapshot.ofDevice at h
  split at h
  . contradiction
  . split at h
    . contradiction
    . cases h
      rfl

theorem available_of_resource {report : Report k} {lamp : Lamp}
    (h : report.resource = .ok lamp.resource)
    : lamp.view.available = (!lamp.givenUp && report.isReachable) := by
  unfold Lamp.view
  cases report with
  | device d =>
    obtain ⟨snapshot, hsnapshot, hresource⟩ := exists_snapshot_of_resource h
    rw [hresource]
    dsimp only [isReachable]
    rw [reachable_ofDevice hsnapshot]
  | group g =>
    have hresource : .group g = lamp.resource := Except.ok.inj h
    rw [← hresource]
    simp [isReachable]

end Report

inductive Update (k : Kind) where
  | refresh (report : Report k)
  | response (answer : Response)

def Response.report? : (k : Kind) → Response → Option (Report k)
  | .device, .device d => some (.device d)
  | .group, .group g => some (.group g)
  | _, _ => none

namespace Update

def report? : Update k → Option (Report k)
  | .refresh report => some report
  | .response answer => answer.report? k

/-- The report of an update, if it is about a resource of the kind, and one that has a light. -/
def accepted? (update : Update k) : Option (Report k) :=
  update.report?.filter (!·.isDark)

def apply (lamp : Lamp) : Update k → Except Error Lamp
  | .refresh report => report.refresh lamp
  | .response answer => lamp.applyUpdate answer

theorem accepted?_eq_some_iff {update : Update k} {report : Report k}
    : update.accepted? = some report ↔ update.report? = some report ∧ report.isDark = false := by
  simp [accepted?]

theorem accepted?_eq_none_iff {update : Update k}
    : update.accepted? = none ↔ ∀ report, update.report? = some report → report.isDark = true := by
  simp [accepted?]

theorem applyUpdate_eq {lamp : Lamp} (hkind : lamp.resource.kind = k) (answer : Response)
    : lamp.applyUpdate answer
        =
      match answer.report? k with
      | some report => report.refresh lamp
      | none => .error (.unexpectedResponse lamp.observeCommand answer) := by
  unfold Lamp.applyUpdate
  cases hresource : lamp.resource with
  | device snapshot =>
    rw [hresource] at hkind
    subst hkind
    cases answer with
    | _ => rfl
  | group group =>
    rw [hresource] at hkind
    subst hkind
    cases answer with
    | _ => rfl

theorem apply_of_report {lamp : Lamp} (hkind : lamp.resource.kind = k) {update : Update k}
    {report : Report k} (h : update.report? = some report)
    : update.apply lamp = report.refresh lamp := by
  cases update with
  | refresh other =>
    cases h
    rfl
  | response answer =>
    unfold report? at h
    unfold apply
    dsimp only at h ⊢
    rw [applyUpdate_eq hkind]
    rw [h]

theorem apply_of_no_report {lamp : Lamp} (hkind : lamp.resource.kind = k) {update : Update k}
    (h : update.report? = none)
    : ∃ e, update.apply lamp = .error e := by
  cases update with
  | refresh other => contradiction
  | response answer =>
    refine ⟨.unexpectedResponse lamp.observeCommand answer, ?_⟩
    unfold report? at h
    unfold apply
    dsimp only at h ⊢
    rw [applyUpdate_eq hkind]
    rw [h]

theorem apply_of_accepted {lamp : Lamp} (hkind : lamp.resource.kind = k) {update : Update k}
    {report : Report k} (h : update.accepted? = some report)
    : ∃ resource, report.resource = .ok resource
        ∧ update.apply lamp = .ok { lamp with resource } := by
  obtain ⟨hreport, hlit⟩ := accepted?_eq_some_iff.1 h
  obtain ⟨resource, hresource⟩ := Report.resource_of_not_isDark hlit
  refine ⟨resource, hresource, ?_⟩
  rw [apply_of_report hkind hreport]
  rw [report.refresh_eq_map]
  rw [hresource]
  rfl

theorem apply_of_not_accepted {lamp : Lamp} (hkind : lamp.resource.kind = k) {update : Update k}
    (h : update.accepted? = none)
    : ∃ e, update.apply lamp = .error e := by
  cases hreport : update.report? with
  | none => exact apply_of_no_report hkind hreport
  | some report =>
    obtain ⟨e, he⟩ := Report.resource_of_isDark (accepted?_eq_none_iff.1 h report hreport)
    refine ⟨e, ?_⟩
    rw [apply_of_report hkind hreport]
    rw [report.refresh_eq_map]
    rw [he]
    rfl

theorem apply_fails_iff {lamp : Lamp} (hkind : lamp.resource.kind = k) {update : Update k}
    : (∃ e, update.apply lamp = .error e) ↔ update.accepted? = none := by
  refine ⟨?_, apply_of_not_accepted hkind⟩
  rintro ⟨e, he⟩
  cases haccepted : update.accepted? with
  | none => rfl
  | some report =>
    obtain ⟨resource, _, happly⟩ := apply_of_accepted hkind haccepted
    rw [happly] at he
    contradiction

end Update

/-! ### Histories -/

inductive Episode (γ : Type) (k : Kind) where
  | update (u : Update k)
  | giveUp
  | turnOn (api : Api γ) (params : TurnOnParams)
  | turnOff (api : Api γ)
  | send (api : Api γ) (action : Action)

variable {γ κ : Type}

namespace Episode

def accepted? : Episode γ k → Option (Report k)
  | .update u => u.accepted?
  | _ => none

def isGiveUp : Episode γ k → Bool
  | .giveUp => true
  | _ => false

def latest (first : Report k) (episodes : List (Episode γ k)) : Report k :=
  (episodes.filterMap accepted?).getLastD first

theorem latest_cons (first : Report k) (episode : Episode γ k) (episodes : List (Episode γ k))
    : latest first (episode :: episodes) = latest (episode.accepted?.getD first) episodes := by
  unfold latest
  rw [List.filterMap_cons]
  cases episode.accepted? with
  | none => rfl
  | some report =>
    dsimp only
    rw [List.getLastD_cons]
    rfl

end Episode

structure Lamp.MadeOf (lamp : Lamp) (report : Report k) (retry : RetryPolicy) (givenUp : Bool) :
    Prop where
  resource : report.resource = .ok lamp.resource
  retry : lamp.retry = retry
  givenUp : lamp.givenUp = givenUp

theorem Lamp.madeOf_of_lamp {report : Report k} {retry : RetryPolicy} {lamp : Lamp}
    (h : report.lamp retry = .ok lamp)
    : lamp.MadeOf report retry false := by
  rw [report.lamp_eq_map] at h
  cases hresource : report.resource with
  | error e =>
    rw [hresource] at h
    contradiction
  | ok resource =>
    rw [hresource] at h
    cases h
    exact ⟨hresource, rfl, rfl⟩

theorem Lamp.MadeOf.exists_fresh {lamp : Lamp} {report : Report k} {retry : RetryPolicy}
    {givenUp : Bool} (h : lamp.MadeOf report retry givenUp)
    : ∃ fresh, report.lamp retry = .ok fresh ∧ lamp = { fresh with givenUp } := by
  refine ⟨{ resource := lamp.resource, retry }, ?_, ?_⟩
  . rw [report.lamp_eq_map]
    rw [h.resource]
    rfl
  . rw [← h.retry]
    rw [← h.givenUp]

theorem Lamp.view_givenUp (lamp : Lamp) (h : lamp.givenUp = false) (givenUp : Bool)
    : { lamp with givenUp }.view
        =
      { lamp.view with available := lamp.view.available && !givenUp } := by
  unfold view
  cases lamp.resource with
  | device snapshot => simp [h, Bool.and_comm]
  | group group => simp [h]

namespace Fleet

variable [DecidableEq κ]

def update (handle : κ) (u : Update k) (fleet : Fleet γ κ) : Fleet γ κ :=
  match (fleet.lamps.find? handle).map u.apply with
  | some (.ok lamp) => { fleet with lamps := fleet.lamps.insert handle lamp }
  | _ => fleet

def step (handle : κ) (fleet : Fleet γ κ) : Episode γ k → Fleet γ κ
  | .update u => fleet.update handle u
  | .giveUp => { fleet with lamps := fleet.lamps.modify handle Lamp.giveUp }
  | .turnOn api params => (fleet.turnOn api handle params).2
  | .turnOff api => (fleet.turnOff api handle).2
  | .send api action => (fleet.carryOut api (fun _ => [action]) handle).2

def run (handle : κ) (fleet : Fleet γ κ) (episodes : List (Episode γ k)) : Fleet γ κ :=
  episodes.foldl (step handle) fleet

variable {handle : κ} {fleet : Fleet γ κ} {lamp : Lamp} {report : Report k} {retry : RetryPolicy}
  {givenUp : Bool}

theorem update_of_not_accepted (hlamp : fleet.lamps.find? handle = some lamp)
    (hmade : lamp.MadeOf report retry givenUp) {u : Update k} (h : u.accepted? = none)
    : fleet.update handle u = fleet := by
  obtain ⟨e, he⟩ := Update.apply_of_not_accepted (Report.kind_of_resource hmade.resource) h
  unfold update
  rw [hlamp]
  rw [Option.map_some]
  rw [he]

theorem exists_madeOf_update (hlamp : fleet.lamps.find? handle = some lamp)
    (hmade : lamp.MadeOf report retry givenUp) (u : Update k)
    : ∃ now, (fleet.update handle u).lamps.find? handle = some now
        ∧ now.MadeOf (u.accepted?.getD report) retry givenUp := by
  cases haccepted : u.accepted? with
  | none =>
    rw [update_of_not_accepted hlamp hmade haccepted]
    exact ⟨lamp, hlamp, hmade⟩
  | some next =>
    have hkind := Report.kind_of_resource hmade.resource
    obtain ⟨resource, hresource, happly⟩ := Update.apply_of_accepted hkind haccepted
    refine ⟨{ lamp with resource }, ?_, hresource, hmade.retry, hmade.givenUp⟩
    unfold update
    rw [hlamp]
    rw [Option.map_some]
    rw [happly]
    dsimp only
    rw [Table.find?_insert]
    exact if_pos rfl

theorem exists_madeOf_of_lamps {after : Fleet γ κ} (hlamps : after.lamps = fleet.lamps)
    (hlamp : fleet.lamps.find? handle = some lamp) (hmade : lamp.MadeOf report retry givenUp)
    : ∃ now, after.lamps.find? handle = some now ∧ now.MadeOf report retry (givenUp || false) := by
  rw [hlamps]
  rw [Bool.or_false]
  exact ⟨lamp, hlamp, hmade⟩

theorem exists_madeOf_step (hlamp : fleet.lamps.find? handle = some lamp)
    (hmade : lamp.MadeOf report retry givenUp) (episode : Episode γ k)
    : ∃ now, (fleet.step handle episode).lamps.find? handle = some now
        ∧ now.MadeOf (episode.accepted?.getD report) retry (givenUp || episode.isGiveUp) := by
  cases episode with
  | update u =>
    dsimp only [step, Episode.accepted?, Episode.isGiveUp]
    rw [Bool.or_false]
    exact exists_madeOf_update hlamp hmade u
  | giveUp =>
    dsimp only [step, Episode.accepted?, Episode.isGiveUp, Option.getD_none]
    rw [Table.find?_modify]
    rw [hlamp]
    exact ⟨lamp.giveUp, if_pos rfl, hmade.resource, hmade.retry, by simp [Lamp.giveUp]⟩
  | turnOn api params =>
    exact exists_madeOf_of_lamps (lamps_carryOut api _ handle fleet) hlamp hmade
  | turnOff api =>
    exact exists_madeOf_of_lamps (lamps_carryOut api _ handle fleet) hlamp hmade
  | send api action =>
    exact exists_madeOf_of_lamps (lamps_carryOut api _ handle fleet) hlamp hmade

theorem exists_madeOf_run (hlamp : fleet.lamps.find? handle = some lamp)
    (hmade : lamp.MadeOf report retry givenUp) (episodes : List (Episode γ k))
    : ∃ now, (fleet.run handle episodes).lamps.find? handle = some now
        ∧ now.MadeOf (Episode.latest report episodes) retry
          (givenUp || episodes.any Episode.isGiveUp) := by
  -- The rest goes by what the first episode leaves, so this is told of any report at the start.
  induction episodes generalizing fleet lamp report givenUp with
  | nil =>
    rw [List.any_nil]
    rw [Bool.or_false]
    exact ⟨lamp, hlamp, hmade⟩
  | cons episode rest ih =>
    obtain ⟨next, hnext, hmade⟩ := exists_madeOf_step hlamp hmade episode
    rw [List.any_cons]
    rw [← Bool.or_assoc]
    rw [Episode.latest_cons]
    exact ih hnext hmade

theorem shows_latest {first : Report k} {retry : RetryPolicy} {lamp : Lamp}
    (hlamp : first.lamp retry = .ok lamp) {fleet : Fleet γ κ} {handle : κ}
    (hfleet : fleet.lamps.find? handle = some lamp) (episodes : List (Episode γ k))
    : ∃ now fresh, (fleet.run handle episodes).lamps.find? handle = some now
        ∧ (Episode.latest first episodes).lamp retry = .ok fresh
        ∧ fresh.view.available = (Episode.latest first episodes).isReachable
        ∧ now.id = fresh.id
        ∧ now.view = { fresh.view with
            available := fresh.view.available && !episodes.any Episode.isGiveUp }
        ∧ ∀ u : Update k, ((∃ e, u.apply now = .error e) ↔ u.accepted? = none)
          ∧ (u.accepted? = none →
            fleet.run handle (episodes ++ [.update u]) = fleet.run handle episodes) := by
  obtain ⟨now, hnow, hmade⟩ := exists_madeOf_run hfleet (Lamp.madeOf_of_lamp hlamp) episodes
  obtain ⟨fresh, hfresh, hsame⟩ := hmade.exists_fresh
  rw [Bool.false_or] at hsame
  refine ⟨now, fresh, hnow, hfresh, ?_, ?_, ?_, ?_⟩
  . rw [Report.available_of_resource (Lamp.madeOf_of_lamp hfresh).resource]
    rw [(Lamp.madeOf_of_lamp hfresh).givenUp]
    rfl
  . rw [hsame]
    rfl
  . rw [hsame]
    exact fresh.view_givenUp (Lamp.madeOf_of_lamp hfresh).givenUp _
  . intro u
    refine ⟨Update.apply_fails_iff (Report.kind_of_resource hmade.resource), ?_⟩
    intro hrefused
    unfold run at hnow ⊢
    rw [List.foldl_append]
    exact update_of_not_accepted hnow hmade hrefused

def bulb : Device where
  id := 1
  name := "bulb"
  lightControl := some { lights := [{ state := true }] }

def remote : Device where
  id := 2
  name := "remote"

def renamedThenLost : List (Episode Unit .device) :=
  [.update (.refresh (.device { bulb with name := "lamp" })), .update (.response (.device remote)),
    .giveUp, .turnOff fun _ gateway => (.ok .ack, gateway)]

def ofLamp (lamp : Lamp) : Fleet Unit Unit where
  gateway := ()
  lamps := (∅ : Table Unit Lamp).insert () lamp

theorem shows_latest_after_giveUp
    : ∃ lamp now, Lamp.ofDevice bulb = .ok lamp
        ∧ ((ofLamp lamp).run () renamedThenLost).lamps.find? () = some now
        ∧ now.id = 1 ∧ now.view.name = "lamp" ∧ now.view.available = false := by
  obtain ⟨lamp, hlamp⟩ : ∃ lamp, Lamp.ofDevice bulb = .ok lamp := ⟨_, rfl⟩
  have hfirst : (Report.device bulb).lamp {} = .ok lamp := hlamp
  have hfleet : (ofLamp lamp).lamps.find? () = some lamp := rfl
  obtain ⟨now, fresh, hnow, hfresh, _, hid, hview, _⟩ := shows_latest hfirst hfleet renamedThenLost
  refine ⟨lamp, now, hlamp, hnow, ?_⟩
  cases hfresh
  rw [hid]
  rw [hview]
  exact ⟨rfl, rfl, rfl⟩

end Fleet

end HomeHub.Gateway
