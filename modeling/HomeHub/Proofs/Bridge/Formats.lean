import HomeHub.Proofs.Bridge.House
import HomeHub.Proofs.Bridge.Mirror

/-!
The formats of characteristics. The tables of services, characteristics and formats agree, so that
an accessory can always be made, and whatever is written to it later, each characteristic of it
holds a value that its format accepts.
-/

namespace HomeHub.Bridge

/-- A characteristic has the format that its name stands for, and a value that this accepts. -/
structure Characteristic.Fits (c : Characteristic) : Prop where
  format : formatOf? c.name = some c.format
  value : c.format.accepts c.value = true

theorem Format.accepts_initial (format : Format) : format.accepts format.initial = true := by
  cases format <;> rfl

theorem Format.accepts_bool_iff {value : Json}
    : Format.bool.accepts value = true ↔ ∃ on, value = .bool on := by
  cases value <;> simp [accepts]

theorem Format.accepts_string_iff {value : Json}
    : Format.string.accepts value = true ↔ ∃ text, value = .str text := by
  cases value <;> simp [accepts]

namespace Characteristic

theorem fits_new {name : String} {format : Format} (h : formatOf? name = some format)
    : (new name format).Fits := by
  exact ⟨h, format.accepts_initial⟩

theorem store_eq_ok_iff {c stored : Characteristic} {value : Json}
    : c.store value = .ok stored ↔ c.format.accepts value = true ∧ stored = { c with value } := by
  unfold store
  split
  . next haccepts => simp [haccepts, eq_comm]
  . next haccepts => simp [haccepts]

theorem Fits.store {c stored : Characteristic} (h : c.Fits) {value : Json}
    (hstore : c.store value = .ok stored)
    : stored.Fits := by
  obtain ⟨haccepts, rfl⟩ := store_eq_ok_iff.1 hstore
  exact ⟨h.format, haccepts⟩

end Characteristic

theorem isSome_formatOf? {service : String} {names : List String}
    (h : characteristicsOf? service = some names) {name : String} (hname : name ∈ names)
    : (formatOf? name).isSome = true := by
  unfold characteristicsOf? at h
  split at h
  . cases h
    revert name
    decide
  . split at h
    . cases h
      revert name
      decide
    . contradiction

namespace Service

theorem load_eq_ok {name : String} {names : List String} (h : characteristicsOf? name = some names)
    : ∃ service, load name = .ok service ∧ service.characteristics.map (·.name) = names
        ∧ ∀ c ∈ service.characteristics, c.Fits := by
  unfold load
  rw [h]
  refine ⟨_, rfl, ?_, ?_⟩
  . dsimp only
    rw [List.map_map]
    exact List.map_id names
  . intro c hc
    obtain ⟨characteristic, hmem, rfl⟩ := List.mem_map.1 hc
    obtain ⟨format, hformat⟩ := Option.isSome_iff_exists.1 (isSome_formatOf? h hmem)
    rw [hformat]
    exact Characteristic.fits_new hformat

end Service

namespace Accessory

def characteristics (accessory : Accessory) : List Characteristic :=
  accessory.services.flatMap (·.characteristics)

structure Formatted (names : List String) (accessory : Accessory) : Prop where
  names : accessory.characteristics.map (·.name) = names
  fits : ∀ c ∈ accessory.characteristics, c.Fits

theorem characteristic?_eq_find? (accessory : Accessory) (name : String)
    : accessory.characteristic? name = accessory.characteristics.find? (·.name == name) := by
  unfold characteristics
  rw [List.find?_flatMap]
  rfl

theorem map_name_replaceIn (c : Characteristic) (characteristics : List Characteristic)
    : (replaceIn c characteristics).map (·.name) = characteristics.map (·.name) := by
  induction characteristics with
  | nil => rfl
  | cons first rest ih =>
    unfold replaceIn
    split
    . next hname => simp [hname]
    . rw [List.map_cons, List.map_cons, ih]

theorem mem_replaceIn {c d : Characteristic} {characteristics : List Characteristic}
    (h : d ∈ replaceIn c characteristics)
    : d = c ∨ d ∈ characteristics := by
  induction characteristics with
  | nil => contradiction
  | cons first rest ih =>
    unfold replaceIn at h
    split at h
    . cases h with
      | head => exact .inl rfl
      | tail _ h => exact .inr (List.mem_cons_of_mem _ h)
    . cases h with
      | head => exact .inr List.mem_cons_self
      | tail _ h => exact (ih h).imp_right (List.mem_cons_of_mem _)

theorem replaceIn_append (c : Characteristic) (characteristics more : List Characteristic)
    : replaceIn c (characteristics ++ more)
        =
      if (characteristics.find? (·.name == c.name)).isSome then
        replaceIn c characteristics ++ more
      else characteristics ++ replaceIn c more := by
  induction characteristics with
  | nil => rfl
  | cons first rest ih =>
    rw [List.cons_append]
    by_cases hname : first.name = c.name
    . simp [replaceIn, hname]
    . rw [List.find?_cons_of_neg (by simpa using hname)]
      rw [replaceIn, if_neg hname, ih]
      rw [replaceIn, if_neg hname]
      split
      . rfl
      . rfl

theorem characteristics_replaceAmong (c : Characteristic) (services : List Service)
    : (replaceAmong c services).flatMap (·.characteristics)
        =
      replaceIn c (services.flatMap (·.characteristics)) := by
  induction services with
  | nil => rfl
  | cons first rest ih =>
    rw [List.flatMap_cons, replaceIn_append]
    unfold replaceAmong Service.characteristic?
    split
    . rw [List.flatMap_cons]
    . rw [List.flatMap_cons, ih]

theorem store_eq_ok_iff {accessory stored : Accessory} {name : String} {value : Json}
    : accessory.store name value = .ok stored
        ↔ ∃ c d, accessory.characteristic? name = some c ∧ c.store value = .ok d
          ∧ { accessory with services := replaceAmong d accessory.services } = stored := by
  unfold store
  cases accessory.characteristic? name with
  | none => simp
  | some c =>
    dsimp only
    cases hstore : c.store value with
    | error e => simp [Except.map, hstore]
    | ok d => simp [Except.map, hstore]

namespace Formatted

variable {names : List String} {accessory stored : Accessory} {name : String} {value : Json}

theorem attach (h : accessory.Formatted names) {service : String} {more : List String}
    (hmore : characteristicsOf? service = some more)
    : ∃ attached, accessory.attach service = .ok attached
        ∧ attached.Formatted (names ++ more) := by
  obtain ⟨loaded, hload, hnames, hfits⟩ := Service.load_eq_ok hmore
  unfold Accessory.attach
  rw [hload]
  refine ⟨_, rfl, ?_, ?_⟩
  . unfold characteristics
    rw [List.flatMap_append, List.map_append]
    rw [← h.names, ← hnames]
    simp [characteristics]
  . intro c hc
    unfold characteristics at hc
    rw [List.flatMap_append, List.flatMap_singleton, List.mem_append] at hc
    cases hc with
    | inl hold => exact h.fits c hold
    | inr hnew => exact hfits c hnew

theorem fits_characteristic? (h : accessory.Formatted names) {c : Characteristic}
    (hc : accessory.characteristic? name = some c)
    : c.Fits := by
  rw [characteristic?_eq_find?] at hc
  exact h.fits c (List.mem_of_find?_eq_some hc)

theorem exists_characteristic? (h : accessory.Formatted names) (hname : name ∈ names)
    {format : Format} (hformat : formatOf? name = some format)
    : ∃ c, accessory.characteristic? name = some c ∧ c.format = format
        ∧ format.accepts c.value = true := by
  rw [← h.names] at hname
  obtain ⟨c, hc, rfl⟩ := List.mem_map.1 hname
  have hsome : (accessory.characteristic? c.name).isSome = true := by
    rw [characteristic?_eq_find?, List.find?_isSome]
    exact ⟨c, hc, by simp⟩
  obtain ⟨found, hfound⟩ := Option.isSome_iff_exists.1 hsome
  have hfits := h.fits_characteristic? hfound
  have hfound' : found.format = format := by
    have hown := hfits.format
    rw [name_of_characteristic? hfound, hformat] at hown
    exact (Option.some.inj hown).symm
  refine ⟨found, hfound, hfound', ?_⟩
  rw [← hfound']
  exact hfits.value

theorem store (h : accessory.Formatted names) (hstore : accessory.store name value = .ok stored)
    : stored.Formatted names := by
  obtain ⟨c, d, hc, hd, rfl⟩ := store_eq_ok_iff.1 hstore
  have hfits := (h.fits_characteristic? hc).store hd
  constructor
  . unfold characteristics
    rw [characteristics_replaceAmong, map_name_replaceIn]
    exact h.names
  . intro other hother
    unfold characteristics at hother
    rw [characteristics_replaceAmong] at hother
    cases mem_replaceIn hother with
    | inl hnew =>
      rw [hnew]
      exact hfits
    | inr hold => exact h.fits other hold

theorem exists_store_iff (h : accessory.Formatted names) (hname : name ∈ names) {format : Format}
    (hformat : formatOf? name = some format)
    : (∃ stored, accessory.store name value = .ok stored) ↔ format.accepts value = true := by
  obtain ⟨c, hc, rfl, _⟩ := h.exists_characteristic? hname hformat
  simp only [store_eq_ok_iff, hc]
  constructor
  . intro hstore
    obtain ⟨_, _, _, hfound, hstored, _⟩ := hstore
    cases hfound
    exact (Characteristic.store_eq_ok_iff.1 hstored).1
  . intro haccepts
    exact ⟨_, c, _, rfl, Characteristic.store_eq_ok_iff.2 ⟨haccepts, rfl⟩, rfl⟩

end Formatted

def informationNames : List String :=
  [nameName, manufacturerName, modelName, serialNumberName]

theorem formatOf?_of_mem_information {name : String} (h : name ∈ informationNames)
    : formatOf? name = some .string := by
  revert name
  decide

theorem Formatted.store_information {accessory : Accessory}
    (h : accessory.Formatted informationNames) (name : String) (hname : name ∈ informationNames)
    (text : String)
    : ∃ stored, accessory.store name (.str text) = .ok stored
        ∧ stored.Formatted informationNames := by
  have hstore : ∃ stored, accessory.store name (.str text) = .ok stored :=
    (h.exists_store_iff hname (formatOf?_of_mem_information hname)).2 rfl
  obtain ⟨stored, hstored⟩ := hstore
  exact ⟨stored, hstored, h.store hstored⟩

theorem exists_new (displayName : String) (entityId : EntityId) (category : String) (aid : Nat)
    : ∃ accessory, new displayName entityId category aid = .ok accessory
        ∧ accessory.Formatted informationNames := by
  let bare : Accessory := { displayName, entityId, category, aid, services := [] }
  have hbare : bare.Formatted [] := by
    refine ⟨rfl, ?_⟩
    intro c hc
    contradiction
  obtain ⟨informed, hinformed, h⟩ :=
    hbare.attach (show characteristicsOf? informationService = some informationNames from rfl)
  obtain ⟨named, hnamed, h⟩ :=
    h.store_information nameName (by decide) displayName
  obtain ⟨made, hmade, h⟩ :=
    h.store_information manufacturerName (by decide) manufacturer
  obtain ⟨modelled, hmodelled, h⟩ :=
    h.store_information modelName (by decide) category
  obtain ⟨numbered, hnumbered, h⟩ :=
    h.store_information serialNumberName (by decide) entityId.text
  refine ⟨numbered, ?_, h⟩
  unfold new
  dsimp only [bare, bind, Except.bind] at hinformed ⊢
  simp only [hinformed, hnamed, hmade, hmodelled, hnumbered]

end Accessory

namespace Switch

def names : List String :=
  Accessory.informationNames ++ [onName]

theorem onName_mem_names : onName ∈ names := by
  decide

theorem store_on_of_formatted {accessory : Accessory} (h : accessory.Formatted names) (on : Bool)
    : ∃ stored, accessory.store onName (.bool on) = .ok stored ∧ stored.Formatted names := by
  have hstore : ∃ stored, accessory.store onName (.bool on) = .ok stored :=
    (h.exists_store_iff onName_mem_names rfl).2 rfl
  obtain ⟨stored, hstored⟩ := hstore
  exact ⟨stored, hstored, h.store hstored⟩

theorem exists_formatted_new (entityId : EntityId) (displayName : String) (aid : Nat)
    : ∃ switch, new entityId displayName aid = .ok switch
        ∧ switch.accessory.Formatted names := by
  obtain ⟨informed, hinformed, h⟩ :=
    Accessory.exists_new displayName entityId switchCategory aid
  obtain ⟨attached, hattached, h⟩ :=
    h.attach (show characteristicsOf? switchService = some [onName] from rfl)
  obtain ⟨stored, hstored, h⟩ := store_on_of_formatted h false
  refine ⟨{ accessory := stored }, ?_, h⟩
  unfold new
  simp only [bind, Except.bind, pure, Except.pure, hinformed, hattached, hstored]

theorem setValue_of_formatted {switch : Switch} (h : switch.accessory.Formatted names) (on : Bool)
    : ∃ pushed, switch.setValue onName (.bool on) false = .ok (pushed, none) := by
  obtain ⟨stored, hstored, _⟩ := store_on_of_formatted h on
  refine ⟨{ switch with accessory := stored }, ?_⟩
  unfold setValue
  rw [hstored]
  rfl

theorem map_write_of_formatted {switch : Switch} (h : switch.accessory.Formatted names)
    (characteristic : String) (value : Json)
    : (switch.write characteristic value).map (·.1.accessory)
        =
      switch.accessory.store characteristic value := by
  unfold write
  cases hstore : switch.accessory.store characteristic value with
  | error e => rfl
  | ok stored =>
    dsimp only [bind, Except.bind]
    split
    . next hname =>
      subst hname
      obtain ⟨on, rfl⟩ := Format.accepts_bool_iff.1
        ((h.exists_store_iff onName_mem_names rfl).1 ⟨stored, hstore⟩)
      rfl
    . rfl

theorem formatted_write {switch written : Switch} (h : switch.accessory.Formatted names)
    {characteristic : String} {value : Json} {request : Option Request}
    (hwrite : switch.write characteristic value = .ok (written, request))
    : written.accessory.Formatted names := by
  have hstore := map_write_of_formatted h characteristic value
  rw [hwrite] at hstore
  exact h.store hstore.symm

theorem formatted_reflect {switch : Switch} (h : switch.accessory.Formatted names)
    (news : Option State)
    : (switch.reflect news).accessory.Formatted names := by
  cases news with
  | none => exact h
  | some state =>
    obtain ⟨stored, hstored, hshown⟩ := store_on_of_formatted h state.isOn
    unfold reflect update setValue
    dsimp only
    rw [hstored]
    cases switch.awaiting with
    | true => exact h
    | false => exact hshown

end Switch

/-! ### The switches of a bridge -/

theorem formatted_of_accessoryFor {config : Config} {state : State} {aid : Nat} {switch : Switch}
    (h : accessoryFor builtinTypes config state aid = .ok (some switch))
    : switch.accessory.Formatted Switch.names := by
  unfold accessoryFor at h
  split at h
  . cases h
  . next type htype =>
    obtain rfl := typeFor?_eq_some htype
    obtain ⟨made, hnew, hmade⟩ :=
      Switch.exists_formatted_new state.entityId (displayName state config) aid
    have hfactory : builtinTypes.find? switchService = some Switch.new := by rfl
    rw [hfactory] at h
    dsimp only at h
    rw [hnew] at h
    cases h
    exact hmade

theorem accessoryFor_of_build {types : Types} {config : Config} {states : List State}
    {bridge : Bridge} (h : build types config states = .ok bridge) {aid : Nat} {follower : Follower}
    (hfind : bridge.followers.find? aid = some follower)
    : ∃ state, accessoryFor types config state aid = .ok (some follower.switch) := by
  obtain ⟨made, hmade, _⟩ := exists_consistsOf h
  have hswitch : bridge.switch? aid = some follower.switch :=
    Option.map_eq_some_iff.2 ⟨follower, hfind, rfl⟩
  obtain ⟨entry, hentry, rfl, hsame⟩ := (hmade.found aid follower.switch).1 hswitch
  rw [← hsame]
  exact ⟨entry.state, hmade.fits entry hentry⟩

namespace House

def Formatted (house : House) : Prop :=
  ∀ aid follower, house.bridge.followers.find? aid = some follower →
    follower.switch.accessory.Formatted Switch.names

theorem Formatted.after {house : House} {follower : Follower}
    (h : follower.switch.accessory.Formatted Switch.names) (act : Act) (aid : Nat)
    : (house.after act aid follower).switch.accessory.Formatted Switch.names := by
  rcases house.switch_after act aid follower with hsame | ⟨_, _, _, hwrite⟩ | ⟨news, hreflect⟩
  . rw [hsame]
    exact h
  . exact Switch.formatted_write h hwrite
  . rw [hreflect]
    exact Switch.formatted_reflect h news

theorem formatted_run {house : House} (h : house.Formatted) (acts : List Act)
    : (house.run acts).Formatted := by
  exact followers_run (fun _ act aid _ hold => Formatted.after hold act aid) h acts

theorem values_fit_run (config : Config) (states : List State) (hub : Hub)
    : ∃ bridge, build builtinTypes config states = .ok bridge
        ∧ ∀ acts, ∀ switch ∈ (run { hub, bridge } acts).bridge.switches,
          (∀ c ∈ switch.accessory.characteristics, c.Fits)
          ∧ (∃ on, switch.on? = some (.bool on))
          ∧ (∀ name ∈ [nameName, manufacturerName, modelName, serialNumberName],
            ∃ c text, switch.accessory.characteristic? name = some c ∧ c.value = .str text)
          ∧ (∀ on, ∃ pushed, switch.setValue onName (.bool on) false = .ok (pushed, none))
          ∧ (∀ value stored, switch.accessory.store onName value = .ok stored →
            ∃ on, value = .bool on)
          ∧ ∀ characteristic value,
            (switch.write characteristic value).map (·.1.accessory)
              = switch.accessory.store characteristic value := by
  obtain ⟨bridge, _, hbuild, _⟩ := exists_build config states
  refine ⟨bridge, hbuild, ?_⟩
  intro acts switch hswitch
  obtain ⟨aid, follower, hfind, rfl⟩ := mem_switches_iff.1 hswitch
  have hformatted : follower.switch.accessory.Formatted Switch.names := by
    refine formatted_run ?_ acts aid follower hfind
    intro aid follower hfind
    obtain ⟨state, hswitch⟩ := accessoryFor_of_build hbuild hfind
    exact formatted_of_accessoryFor hswitch
  refine ⟨hformatted.fits, ?_, ?_, Switch.setValue_of_formatted hformatted, ?_,
    Switch.map_write_of_formatted hformatted⟩
  . obtain ⟨c, hc, _, haccepts⟩ :=
      hformatted.exists_characteristic? Switch.onName_mem_names rfl
    obtain ⟨on, hon⟩ := Format.accepts_bool_iff.1 haccepts
    refine ⟨on, ?_⟩
    unfold Switch.on?
    rw [hc, Option.map_some, hon]
  . intro name hname
    obtain ⟨c, hc, _, haccepts⟩ :=
      hformatted.exists_characteristic? (List.mem_append_left _ hname)
        (Accessory.formatOf?_of_mem_information hname)
    obtain ⟨text, htext⟩ := Format.accepts_string_iff.1 haccepts
    exact ⟨c, text, hc, htext⟩
  . intro value stored hstore
    apply Format.accepts_bool_iff.1
    exact (hformatted.exists_store_iff Switch.onName_mem_names rfl).1 ⟨stored, hstore⟩

def badWrites : List Act :=
  [.start, .write 2 onName (.str "on"), .write 2 onName .null, .write 2 onName (.bool true),
   .write 2 nameName (.int 7), .write 2 nameName (.str "gone"), .write 2 modelName (.bool false),
   .set (Mirror.kitchenWrite "unheard of" "second"), .receive 2, .receive 2, .stop]

theorem values_fit_run_bad_writes
    : let house := run { hub := Mirror.kitchenHub, bridge := Mirror.kitchenBridge } badWrites
      build builtinTypes {} Mirror.kitchenHub.states.values = .ok Mirror.kitchenBridge
        ∧ house.bridge.switches.length = 1
        ∧ ∀ switch ∈ house.bridge.switches,
          (∀ c ∈ switch.accessory.characteristics, c.Fits)
          ∧ ∃ on, switch.on? = some (.bool on) := by
  intro house
  obtain ⟨bridge, hbuild, hfit⟩ :=
    values_fit_run {} Mirror.kitchenHub.states.values Mirror.kitchenHub
  cases hbuild.symm.trans Mirror.build_kitchenHub
  refine ⟨Mirror.build_kitchenHub, by decide +kernel, ?_⟩
  intro switch hswitch
  obtain ⟨hfits, hon, _⟩ := hfit badWrites switch hswitch
  exact ⟨hfits, hon⟩

end House

end HomeHub.Bridge
