import HomeHub.Proofs.Bridge.Calls
import HomeHub.Proofs.Bridge.Formats

/-!
What becomes of a client's write: which error it ends with, or which value it changes and which
service it calls. Nothing else of a bridge is changed by it, and what the service answers does not
matter for what is changed.
-/

namespace HomeHub.Bridge

/-! ### The value of one characteristic -/

def Characteristic.assign (name : String) (value : Json) (c : Characteristic) : Characteristic :=
  if c.name = name then { c with value } else c

def Service.assign (name : String) (value : Json) (service : Service) : Service :=
  { service with characteristics := service.characteristics.map (Characteristic.assign name value) }

def Accessory.assign (accessory : Accessory) (name : String) (value : Json) : Accessory :=
  { accessory with services := accessory.services.map (Service.assign name value) }

def Switch.assign (switch : Switch) (name : String) (value : Json) : Switch :=
  { switch with accessory := switch.accessory.assign name value }

variable {name : String} {value : Json} {c : Characteristic}

theorem map_assign_of_notMem {characteristics : List Characteristic}
    (h : name ∉ characteristics.map (·.name)) (value : Json)
    : characteristics.map (Characteristic.assign name value) = characteristics := by
  rw [List.map_congr_left (g := id), List.map_id]
  intro c hc
  apply if_neg
  intro hname
  apply h
  rw [← hname]
  exact List.mem_map_of_mem hc

theorem Service.assign_of_notMem {service : Service}
    (h : name ∉ service.characteristics.map (·.name)) (value : Json)
    : service.assign name value = service := by
  unfold assign
  rw [map_assign_of_notMem h]

namespace Accessory

theorem replaceIn_eq_map {characteristics : List Characteristic}
    (hdistinct : (characteristics.map (·.name)).Nodup)
    (hc : characteristics.find? (·.name == name) = some c)
    : replaceIn { c with value } characteristics
        =
      characteristics.map (Characteristic.assign name value) := by
  induction characteristics with
  | nil => contradiction
  | cons first rest ih =>
    have hcname : c.name = name := by simpa using List.find?_some hc
    rw [List.map_cons, List.nodup_cons] at hdistinct
    unfold replaceIn
    dsimp only
    rw [List.map_cons]
    by_cases hname : first.name = c.name
    . have hfirst : first = c := by simpa [hname, hcname] using hc
      subst hfirst
      rw [hcname] at hdistinct
      -- There is nothing else of that name in the rest.
      rw [if_pos rfl, map_assign_of_notMem hdistinct.1]
      unfold Characteristic.assign
      rw [if_pos hcname]
    . rw [if_neg hname]
      have hne : first.name ≠ name := by
        rw [← hcname]
        exact hname
      rw [List.find?_cons_of_neg (by simpa using hne)] at hc
      rw [ih hdistinct.2 hc]
      unfold Characteristic.assign
      rw [if_neg hne]

theorem map_assign_of_notMem {services : List Service}
    (h : name ∉ (services.flatMap (·.characteristics)).map (·.name)) (value : Json)
    : services.map (Service.assign name value) = services := by
  rw [List.map_congr_left (g := id), List.map_id]
  intro service hservice
  apply Service.assign_of_notMem
  intro hname
  apply h
  rw [List.map_flatMap]
  exact List.mem_flatMap_of_mem hservice hname

theorem replaceAmong_eq_map {services : List Service}
    (hdistinct : ((services.flatMap (·.characteristics)).map (·.name)).Nodup)
    (hname : c.name = name) (hc : services.findSome? (·.characteristic? name) = some c)
    : replaceAmong { c with value } services = services.map (Service.assign name value) := by
  subst hname
  induction services with
  | nil => contradiction
  | cons first rest ih =>
    rw [List.flatMap_cons, List.map_append, List.nodup_append] at hdistinct
    obtain ⟨hfirst, hrest, hapart⟩ := hdistinct
    rw [List.findSome?_cons] at hc
    unfold replaceAmong
    dsimp only
    rw [List.map_cons]
    cases hfound : first.characteristic? c.name with
    | none =>
      rw [hfound] at hc
      have hnone : c.name ∉ first.characteristics.map (·.name) := by
        unfold Service.characteristic? at hfound
        simpa using hfound
      rw [if_neg (by simp), ih hrest hc, Service.assign_of_notMem hnone]
    | some found =>
      rw [hfound] at hc
      cases hc
      have hmem : c.name ∈ first.characteristics.map (·.name) :=
        List.mem_map_of_mem (List.mem_of_find?_eq_some hfound)
      have hnone : c.name ∉ (rest.flatMap (·.characteristics)).map (·.name) := by
        intro hagain
        exact hapart c.name hmem c.name hagain rfl
      rw [if_pos (by simp), replaceIn_eq_map hfirst hfound, map_assign_of_notMem hnone]
      rfl

theorem characteristics_assign (accessory : Accessory) (name : String) (value : Json)
    : (accessory.assign name value).characteristics
        =
      accessory.characteristics.map (Characteristic.assign name value) := by
  unfold characteristics assign
  rw [List.flatMap_map, List.map_flatMap]
  rfl

theorem characteristic?_assign (accessory : Accessory) (name other : String) (value : Json)
    : (accessory.assign name value).characteristic? other
        =
      (accessory.characteristic? other).map (Characteristic.assign name value) := by
  have hkeeps : ∀ c : Characteristic, (c.assign name value).name = c.name := by
    intro c
    unfold Characteristic.assign
    split
    . rfl
    . rfl
  rw [characteristic?_eq_find?, characteristic?_eq_find?]
  rw [characteristics_assign, List.find?_map]
  simp only [Function.comp_def, hkeeps]

theorem aid_of_store {accessory stored : Accessory} (h : accessory.store name value = .ok stored)
    : stored.aid = accessory.aid := by
  obtain ⟨c, d, _, _, rfl⟩ := store_eq_ok_iff.1 h
  rfl

theorem store_of_none {accessory : Accessory} (h : accessory.characteristic? name = none)
    (value : Json)
    : accessory.store name value = .error (.unknownCharacteristic accessory.aid name) := by
  unfold store
  rw [h]

theorem store_of_refused {accessory : Accessory} (h : accessory.characteristic? name = some c)
    (hvalue : c.format.accepts value = false)
    : accessory.store name value = .error (.invalidValue name value) := by
  unfold store
  rw [h]
  dsimp only
  unfold Characteristic.store
  rw [hvalue, name_of_characteristic? h]
  rfl

theorem Formatted.exists_of_mem {names : List String} {accessory : Accessory}
    (h : accessory.Formatted names) (hc : c ∈ accessory.characteristics)
    : ∃ found, accessory.characteristic? c.name = some found ∧ found.format = c.format := by
  have hname : c.name ∈ names := by
    rw [← h.names]
    exact List.mem_map_of_mem hc
  obtain ⟨found, hfound, hformat, _⟩ := h.exists_characteristic? hname (h.fits c hc).format
  exact ⟨found, hfound, hformat⟩

theorem Formatted.store_of_accepted {names : List String} {accessory : Accessory}
    (h : accessory.Formatted names) (hdistinct : names.Nodup) (hname : name ∈ names)
    {format : Format} (hformat : formatOf? name = some format)
    (hvalue : format.accepts value = true)
    : accessory.store name value = .ok (accessory.assign name value) := by
  obtain ⟨c, hc, rfl, _⟩ := h.exists_characteristic? hname hformat
  have hservices : replaceAmong { c with value } accessory.services
      = accessory.services.map (Service.assign name value) := by
    apply replaceAmong_eq_map _ (name_of_characteristic? hc) hc
    rw [← h.names] at hdistinct
    exact hdistinct
  apply store_eq_ok_iff.2
  refine ⟨c, { c with value }, hc, Characteristic.store_eq_ok_iff.2 ⟨hvalue, rfl⟩, ?_⟩
  rw [hservices]
  rfl

end Accessory

/-! ### A write to a switch -/

namespace Switch

variable {switch : Switch}

theorem nodup_names : names.Nodup := by
  decide

theorem write_of_error {e : Error} (h : switch.accessory.store name value = .error e)
    : switch.write name value = .error e := by
  unfold write
  rw [h]
  rfl

theorem write_information (h : switch.accessory.Formatted names)
    (hname : name ∈ Accessory.informationNames) (text : String)
    : switch.write name (.str text) = .ok (switch.assign name (.str text), none) := by
  have hstore : switch.accessory.store name (.str text)
      = .ok (switch.accessory.assign name (.str text)) :=
    h.store_of_accepted nodup_names (List.mem_append_left _ hname)
      (Accessory.formatOf?_of_mem_information hname) rfl
  have hother : name ≠ onName := by
    rintro rfl
    exact absurd hname (by decide)
  unfold write
  rw [hstore]
  dsimp only [bind, Except.bind]
  rw [if_neg hother]
  rfl

def commanded (switch : Switch) (on : Bool) : Switch :=
  { switch.assign onName (.bool on) with awaiting := true }

theorem write_command (h : switch.accessory.Formatted names) (on : Bool)
    : switch.write onName (.bool on)
        =
      .ok (switch.commanded on, some (.move switch.entityId on)) := by
  have hstore : switch.accessory.store onName (.bool on)
      = .ok (switch.accessory.assign onName (.bool on)) :=
    h.store_of_accepted nodup_names onName_mem_names rfl rfl
  unfold write
  rw [hstore]
  rfl

theorem on?_commanded (h : switch.accessory.Formatted names) (on : Bool)
    : (switch.commanded on).on? = some (.bool on) := by
  obtain ⟨c, hc, _⟩ := h.exists_characteristic? onName_mem_names rfl
  have hname := Accessory.name_of_characteristic? hc
  unfold on?
  have hassign : (switch.commanded on).accessory = switch.accessory.assign onName (.bool on) := by
    rfl
  rw [hassign, Accessory.characteristic?_assign, hc]
  simp [Characteristic.assign, hname]

end Switch

/-! ### A write to a bridge -/

def alter (bridge : Bridge) (aid : Nat) (f : Switch → Switch) : Bridge :=
  { bridge with
    followers := bridge.followers.modify aid fun follower =>
      { follower with switch := f follower.switch } }

theorem switch?_alter (bridge : Bridge) (aid other : Nat) (f : Switch → Switch)
    : (bridge.alter aid f).switch? other
        =
      if aid = other then (bridge.switch? other).map f else bridge.switch? other := by
  unfold alter switch?
  dsimp only
  rw [Table.find?_modify]
  split
  . rw [Option.map_map, Option.map_map]
    rfl
  . rfl

/--
What a client's write does to a bridge and what it ends with. All characteristics of its accessory
are given with their formats, so that every write is one of those told.
-/
structure Outcome {m : Type → Type} [Monad m] (bridge : Bridge)
    (call : Request → m (Except ServiceError Unit)) (aid : Nat) (name : String) (value : Json) :
    Prop where
  unknownAccessory : bridge.switch? aid = none →
    bridge.write call aid name value = pure (.error (.unknownAccessory aid), bridge)
  formats : ∀ switch, bridge.switch? aid = some switch →
    switch.accessory.characteristics.map (fun c => (c.name, c.format))
      = [(nameName, .string), (manufacturerName, .string), (modelName, .string),
        (serialNumberName, .string), (onName, .bool)]
  unknownCharacteristic : ∀ switch, bridge.switch? aid = some switch →
    (∀ c ∈ switch.accessory.characteristics, c.name ≠ name) →
    bridge.write call aid name value = pure (.error (.unknownCharacteristic aid name), bridge)
  invalidValue : ∀ switch, bridge.switch? aid = some switch →
    ∀ c ∈ switch.accessory.characteristics, c.name = name → c.format.accepts value = false →
    bridge.write call aid name value = pure (.error (.invalidValue name value), bridge)
  information : ∀ switch, bridge.switch? aid = some switch →
    ∀ text, name ∈ Accessory.informationNames → value = .str text →
    bridge.write call aid name value = pure (.ok (), bridge.alter aid (·.assign name value))
  command : ∀ switch, bridge.switch? aid = some switch →
    ∀ on, name = onName → value = .bool on →
    bridge.write call aid name value
        = (do
          let answer ← call (.move switch.entityId on)
          return (answer.mapError .service, bridge.alter aid (·.commanded on)))
      ∧ ((bridge.alter aid (·.commanded on)).switch? aid).map (fun s => (s.on?, s.awaiting))
        = some (some (.bool on), true)

theorem formats_of_formatted {accessory : Accessory} (h : accessory.Formatted Switch.names)
    : accessory.characteristics.map (fun c => (c.name, c.format))
        =
      Switch.names.map fun name => (name, (formatOf? name).getD .string) := by
  rw [← h.names, List.map_map]
  apply List.map_congr_left
  intro c hc
  dsimp only [Function.comp]
  rw [(h.fits c hc).format]
  rfl

section

variable {m : Type → Type} [Monad m] {bridge : Bridge} {aid : Nat} {follower : Follower}

theorem write_of_error (hfind : bridge.followers.find? aid = some follower) {e : Error}
    (h : follower.switch.accessory.store name value = .error e)
    (call : Request → m (Except ServiceError Unit))
    : bridge.write call aid name value = pure (.error e, bridge) := by
  unfold write beginWrite
  rw [hfind]
  dsimp only
  rw [Switch.write_of_error h]
  rfl

theorem beginWrite_of_ok (hfind : bridge.followers.find? aid = some follower)
    (f : Switch → Switch) {request : Option Request}
    (h : follower.switch.write name value = .ok (f follower.switch, request))
    : bridge.beginWrite aid name value = .ok (bridge.alter aid f, request) := by
  unfold beginWrite alter Table.modify
  rw [hfind]
  dsimp only
  rw [h]
  rfl

theorem write_information (hfind : bridge.followers.find? aid = some follower)
    (h : follower.switch.accessory.Formatted Switch.names)
    (hname : name ∈ Accessory.informationNames) (text : String)
    (call : Request → m (Except ServiceError Unit))
    : bridge.write call aid name (.str text)
        =
      pure (.ok (), bridge.alter aid (·.assign name (.str text))) := by
  have hwrite := Switch.write_information h hname text
  unfold write
  rw [beginWrite_of_ok hfind (·.assign name (.str text)) hwrite]

theorem write_command (hfind : bridge.followers.find? aid = some follower)
    (h : follower.switch.accessory.Formatted Switch.names) (on : Bool)
    (call : Request → m (Except ServiceError Unit))
    : bridge.write call aid onName (.bool on)
        =
      (do
        let answer ← call (.move follower.switch.entityId on)
        return (answer.mapError .service, bridge.alter aid (·.commanded on))) := by
  have hwrite := Switch.write_command h on
  unfold write
  rw [beginWrite_of_ok hfind (·.commanded on) hwrite]

theorem outcome_of_formatted (call : Request → m (Except ServiceError Unit))
    (h : ∀ follower, bridge.followers.find? aid = some follower →
      follower.switch.accessory.Formatted Switch.names ∧ follower.switch.aid = aid)
    (name : String) (value : Json)
    : bridge.Outcome call aid name value := by
  constructor
  case unknownAccessory =>
    intro hnone
    unfold write beginWrite
    rw [Option.map_eq_none_iff.1 hnone]
  case formats =>
    intro switch hswitch
    obtain ⟨follower, hfind, rfl⟩ := Option.map_eq_some_iff.1 hswitch
    rw [formats_of_formatted (h follower hfind).1]
    rfl
  case unknownCharacteristic =>
    intro switch hswitch hnames
    obtain ⟨follower, hfind, rfl⟩ := Option.map_eq_some_iff.1 hswitch
    have hnone : follower.switch.accessory.characteristic? name = none := by
      rw [Accessory.characteristic?_eq_find?]
      simpa using hnames
    have haid : follower.switch.accessory.aid = aid := (h follower hfind).2
    rw [write_of_error hfind (Accessory.store_of_none hnone value), haid]
  case invalidValue =>
    intro switch hswitch c hc hname hvalue
    obtain ⟨follower, hfind, rfl⟩ := Option.map_eq_some_iff.1 hswitch
    obtain ⟨found, hfound, hformat⟩ := (h follower hfind).1.exists_of_mem hc
    rw [hname] at hfound
    rw [← hformat] at hvalue
    rw [write_of_error hfind (Accessory.store_of_refused hfound hvalue)]
  case information =>
    intro switch hswitch text hname hvalue
    obtain ⟨follower, hfind, rfl⟩ := Option.map_eq_some_iff.1 hswitch
    subst hvalue
    exact write_information hfind (h follower hfind).1 hname text call
  case command =>
    intro switch hswitch on hname hvalue
    subst hname hvalue
    obtain ⟨follower, hfind, rfl⟩ := Option.map_eq_some_iff.1 hswitch
    have hformatted := (h follower hfind).1
    refine ⟨write_command hfind hformatted on call, ?_⟩
    rw [switch?_alter, if_pos rfl, hswitch]
    rw [Option.map_some, Option.map_some, Switch.on?_commanded hformatted]
    rfl

end

/-! ### Whatever has happened before -/

namespace Switch

variable {switch : Switch}

theorem aid_of_write {written : Switch} (h : switch.accessory.Formatted names)
    {request : Option Request} (hwrite : switch.write name value = .ok (written, request))
    : written.aid = switch.aid := by
  have hstore := map_write_of_formatted h name value
  rw [hwrite] at hstore
  exact Accessory.aid_of_store hstore.symm

theorem aid_reflect (h : switch.accessory.Formatted names) (news : Option State)
    : (switch.reflect news).aid = switch.aid := by
  cases news with
  | none => rfl
  | some state =>
    obtain ⟨stored, hstored, _⟩ := store_on_of_formatted h state.isOn
    unfold reflect update setValue
    dsimp only
    rw [hstored]
    cases switch.awaiting with
    | true => rfl
    | false => exact Accessory.aid_of_store hstored

end Switch

namespace House

def Regular (house : House) : Prop :=
  ∀ aid follower, house.bridge.followers.find? aid = some follower →
    follower.switch.accessory.Formatted Switch.names ∧ follower.switch.aid = aid

theorem aid_after {house : House} {follower : Follower}
    (h : follower.switch.accessory.Formatted Switch.names) (act : Act) (aid : Nat)
    : (house.after act aid follower).switch.aid = follower.switch.aid := by
  rcases house.switch_after act aid follower with hsame | ⟨_, _, _, hwrite⟩ | ⟨news, hreflect⟩
  . rw [hsame]
  . exact Switch.aid_of_write h hwrite
  . rw [hreflect]
    exact Switch.aid_reflect h news

theorem regular_run {house : House} (h : house.Regular) (acts : List Act)
    : (house.run acts).Regular := by
  refine followers_run ?_ h acts
  intro house act aid follower ⟨hformatted, haid⟩
  exact ⟨Formatted.after hformatted act aid, (aid_after hformatted act aid).trans haid⟩

theorem regular_of_build {config : Config} {states : List State} {bridge : Bridge}
    (hbuild : build builtinTypes config states = .ok bridge) (hub : Hub)
    : Regular { hub, bridge } := by
  intro aid follower hfind
  obtain ⟨state, hswitch⟩ := accessoryFor_of_build hbuild hfind
  exact ⟨formatted_of_accessoryFor hswitch, (parts_of_accessoryFor hswitch).2⟩

theorem outcome_write_after_run (config : Config) (states : List State) (hub : Hub)
    : ∃ bridge, build builtinTypes config states = .ok bridge
        ∧ ∀ (acts : List Act) {m : Type → Type} [Monad m]
          (call : Request → m (Except ServiceError Unit)) (aid : Nat) (name : String)
          (value : Json), (run { hub, bridge } acts).bridge.Outcome call aid name value := by
  obtain ⟨bridge, _, hbuild, _⟩ := exists_build config states
  refine ⟨bridge, hbuild, ?_⟩
  intro acts m _ call aid name value
  exact outcome_of_formatted call (regular_run (regular_of_build hbuild hub) acts aid) name value

def failure : ServiceError :=
  .callFailed "out of order"

theorem outcomes_after_bad_writes
    : let house := run { hub := Mirror.kitchenHub, bridge := Mirror.kitchenBridge } badWrites
      let write := house.bridge.write (noted fun _ => .error failure)
      build builtinTypes {} Mirror.kitchenHub.states.values = .ok Mirror.kitchenBridge
        ∧ write 3 onName .null [] = ((.error (.unknownAccessory 3), house.bridge), [])
        ∧ write 2 "Brightness" .null []
          = ((.error (.unknownCharacteristic 2 "Brightness"), house.bridge), [])
        ∧ write 2 onName .null [] = ((.error (.invalidValue onName .null), house.bridge), [])
        ∧ ∃ commanded, write 2 onName (.bool false) []
            = ((.error (.service failure), commanded), [.move Mirror.kitchen false])
          ∧ (commanded.switch? 2).map (fun s => (s.on?, s.awaiting))
            = some (some (.bool false), true) := by
  intro house write
  obtain ⟨bridge, hbuild, houtcome⟩ :=
    outcome_write_after_run {} Mirror.kitchenHub.states.values Mirror.kitchenHub
  cases hbuild.symm.trans Mirror.build_kitchenHub
  have houtcome : ∀ aid name value,
      house.bridge.Outcome (noted fun _ => .error failure) aid name value :=
    fun aid name value => houtcome badWrites _ aid name value
  have hkitchen : (house.bridge.switch? 2).map Switch.entityId = some Mirror.kitchen := by rfl
  obtain ⟨switch, hswitch, hentity⟩ := Option.map_eq_some_iff.1 hkitchen
  have hformats := (houtcome 2 onName .null).formats switch hswitch
  refine ⟨Mirror.build_kitchenHub, ?_, ?_, ?_, ?_⟩
  . exact congrFun ((houtcome 3 onName .null).unknownAccessory rfl) []
  . have hnames : ∀ c ∈ switch.accessory.characteristics, c.name ≠ "Brightness" := by
      intro c hc hname
      have hmem := List.mem_map_of_mem (f := fun c => (c.name, c.format)) hc
      rw [hformats, hname] at hmem
      revert hmem
      cases c.format with
      | bool => decide
      | string => decide
    exact congrFun ((houtcome 2 "Brightness" .null).unknownCharacteristic switch hswitch hnames) []
  . have hon : (onName, Format.bool) ∈ switch.accessory.characteristics.map
        fun c => (c.name, c.format) := by
      rw [hformats]
      simp
    obtain ⟨c, hc, hpair⟩ := List.mem_map.1 hon
    obtain ⟨hname, hformat⟩ := Prod.mk.inj hpair
    have hrefused : c.format.accepts .null = false := by
      rw [hformat]
      rfl
    exact congrFun ((houtcome 2 onName .null).invalidValue switch hswitch c hc hname hrefused) []
  . obtain ⟨hwrite, hshown⟩ :=
      (houtcome 2 onName (.bool false)).command switch hswitch false rfl rfl
    refine ⟨_, ?_, hshown⟩
    rw [← hentity]
    exact congrFun hwrite []

end House

end HomeHub.Bridge
