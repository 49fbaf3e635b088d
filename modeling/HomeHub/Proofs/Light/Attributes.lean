import HomeHub.Proofs.Light.Show

/-!
Which attributes are stored of a light. Brightness and colours are there while the light is on, also
if it is not available and its state is not `on`; the bounds of its colour temperature are there if
the features that stand beside them say that it has one.
-/

namespace HomeHub

namespace Json.Object

variable {key : String} {members : List (String × Json)}

theorem isSome_find?_foldl_insert (object : Object)
    : (find? key (members.foldl (fun object (k, v) => object.insert k v) object)).isSome = true
        ↔ key ∈ members.map Prod.fst ∨ (find? key object).isSome = true := by
  induction members generalizing object with
  | nil => simp
  | cons member members ih =>
    rw [List.foldl_cons, ih]
    rw [find?_insert]
    by_cases hkey : key = member.1
    . simp [hkey]
    . simp [hkey]

theorem isSome_find?_ofList
    : (find? key (ofList members)).isSome = true ↔ key ∈ members.map Prod.fst := by
  unfold ofList
  rw [isSome_find?_foldl_insert]
  simp [find?]

theorem find?_foldl_insert_of_notMem (h : key ∉ members.map Prod.fst) (object : Object)
    : find? key (members.foldl (fun object (k, v) => object.insert k v) object)
        =
      find? key object := by
  induction members generalizing object with
  | nil => rfl
  | cons member members ih =>
    simp only [List.map_cons, List.mem_cons, not_or] at h
    rw [List.foldl_cons, ih h.2]
    exact find?_insert_of_ne h.1 member.2 object

theorem find?_ofList_append (h : key ∉ members.map Prod.fst) (before : List (String × Json))
    : find? key (ofList (before ++ members)) = find? key (ofList before) := by
  unfold ofList
  rw [List.foldl_append]
  exact find?_foldl_insert_of_notMem h _

end Json.Object

namespace Light.View

inductive Shines (view : View) : String → Prop where
  | brightness (h : view.brightness.isSome = true) : Shines view "brightness"
  | colorTemp (h : view.colorTemp.isSome = true) : Shines view "color_temp"
  | hsColor (h : view.hsColor.isSome = true) : Shines view "hs_color"
  | xyColor (h : view.xyColor.isSome = true) : Shines view "xy_color"

inductive Bounded (view : View) : String → Prop where
  | min (h : view.minMireds.isSome = true) : Bounded view "min_mireds"
  | max (h : view.maxMireds.isSome = true) : Bounded view "max_mireds"

def shiningKeys : List String :=
  ["brightness", "color_temp", "hs_color", "xy_color"]

def boundKeys : List String :=
  ["min_mireds", "max_mireds"]

variable {view : View} {key : String}

theorem Shines.mem (h : view.Shines key) : key ∈ shiningKeys := by
  cases h <;> decide

theorem Bounded.mem (h : view.Bounded key) : key ∈ boundKeys := by
  cases h <;> decide

theorem mem_keys_present_iff {members : List (String × Option Json)}
    : key ∈ (present members).map Prod.fst
        ↔ ∃ reported, (key, reported) ∈ members ∧ reported.isSome = true := by
  unfold present
  simp only [List.mem_map, List.mem_filterMap, Option.map_eq_some_iff, Prod.exists]
  constructor
  . rintro ⟨_, _, ⟨_, _, hmem, _, rfl, h⟩, rfl⟩
    cases h
    exact ⟨some _, hmem, rfl⟩
  . rintro ⟨reported, hmem, hreported⟩
    obtain ⟨found, rfl⟩ := Option.isSome_iff_exists.1 hreported
    exact ⟨key, found, ⟨key, some found, hmem, found, rfl, rfl⟩, rfl⟩

theorem bounded_iff
    : key ∈ (present [("min_mireds", view.minMireds.map word16),
        ("max_mireds", view.maxMireds.map word16)]).map Prod.fst
        ↔ view.Bounded key := by
  rw [mem_keys_present_iff]
  simp only [List.mem_cons, Prod.mk.injEq, List.not_mem_nil, or_false]
  constructor
  . rintro ⟨_, ⟨rfl, rfl⟩ | ⟨rfl, rfl⟩, h⟩
    . exact .min (by simpa using h)
    . exact .max (by simpa using h)
  . rintro (h | h)
    . exact ⟨_, .inl ⟨rfl, rfl⟩, by simpa using h⟩
    . exact ⟨_, .inr ⟨rfl, rfl⟩, by simpa using h⟩

theorem shines_iff
    : key ∈ (present [("brightness", view.brightness.map fun n => .int n.toNat),
        ("color_temp", view.colorTemp.map word16), ("hs_color", view.hsColor.map pair),
        ("xy_color", view.xyColor.map pair)]).map Prod.fst
        ↔ view.Shines key := by
  rw [mem_keys_present_iff]
  simp only [List.mem_cons, Prod.mk.injEq, List.not_mem_nil, or_false]
  constructor
  . rintro ⟨_, ⟨rfl, rfl⟩ | ⟨rfl, rfl⟩ | ⟨rfl, rfl⟩ | ⟨rfl, rfl⟩, h⟩
    . exact .brightness (by simpa using h)
    . exact .colorTemp (by simpa using h)
    . exact .hsColor (by simpa using h)
    . exact .xyColor (by simpa using h)
  . rintro (h | h | h | h)
    . exact ⟨_, .inl ⟨rfl, rfl⟩, by simpa using h⟩
    . exact ⟨_, .inr (.inl ⟨rfl, rfl⟩), by simpa using h⟩
    . exact ⟨_, .inr (.inr (.inl ⟨rfl, rfl⟩)), by simpa using h⟩
    . exact ⟨_, .inr (.inr (.inr ⟨rfl, rfl⟩)), by simpa using h⟩

theorem mem_keys_ite_iff {members : List (String × Json)} {shown : Bool}
    : key ∈ (if shown then members else []).map Prod.fst
        ↔ shown = true ∧ key ∈ members.map Prod.fst := by
  cases shown with
  | false => simp
  | true => simp

theorem isSome_attribute_iff
    : (view.attributes.find? key).isSome = true
        ↔ key = State.friendlyName ∨ key = "supported_features"
          ∨ view.supports supportColorTemp = true ∧ view.Bounded key
          ∨ view.on = true ∧ view.Shines key := by
  unfold attributes
  rw [Json.Object.isSome_find?_ofList]
  rw [List.map_append, List.map_append, List.mem_append, List.mem_append]
  rw [mem_keys_ite_iff, mem_keys_ite_iff, bounded_iff, shines_iff]
  simp only [List.map_cons, List.map_nil, List.mem_cons, List.not_mem_nil, or_false, or_assoc]

theorem shining_attribute_iff (h : key ∈ shiningKeys)
    : (view.attributes.find? key).isSome = true ↔ view.on = true ∧ view.Shines key := by
  have hother : ∀ key ∈ shiningKeys,
      key ≠ State.friendlyName ∧ key ≠ "supported_features" ∧ key ∉ boundKeys := by
    decide
  obtain ⟨hname, hfeatures, hbounds⟩ := hother key h
  have hbounded : ¬ view.Bounded key := fun hbounded => hbounds hbounded.mem
  rw [isSome_attribute_iff]
  simp [hname, hfeatures, hbounded]

theorem bound_attribute_iff (h : key ∈ boundKeys)
    : (view.attributes.find? key).isSome = true
        ↔ view.supports supportColorTemp = true ∧ view.Bounded key := by
  have hother : ∀ key ∈ boundKeys,
      key ≠ State.friendlyName ∧ key ≠ "supported_features" ∧ key ∉ shiningKeys := by
    decide
  obtain ⟨hname, hfeatures, hshining⟩ := hother key h
  have hshines : ¬ view.Shines key := fun hshines => hshining hshines.mem
  rw [isSome_attribute_iff]
  simp [hname, hfeatures, hshines]

theorem features_attribute
    : view.attributes.find? "supported_features" = some (.int view.features.toNat) := by
  have hbounds : "supported_features" ∉ boundKeys := by decide
  have hshining : "supported_features" ∉ shiningKeys := by decide
  unfold attributes
  rw [Json.Object.find?_ofList_append, Json.Object.find?_ofList_append]
  . rfl
  . rw [mem_keys_ite_iff, bounded_iff]
    exact fun h => hbounds h.2.mem
  . rw [mem_keys_ite_iff, shines_iff]
    exact fun h => hshining h.2.mem

theorem value_eq_on_iff : view.value = State.on ↔ view.available = true ∧ view.on = true := by
  unfold value
  cases view.available with
  | false => simp [State.unavailable, State.on]
  | true =>
    cases view.on with
    | false => simp [State.off, State.on]
    | true => simp

/-- A light that is not available still reports how it shines, as long as it is on for itself. -/
structure Published (view : View) (state : State) : Prop where
  shining : ∀ key ∈ shiningKeys, (state.attributes.find? key).isSome = true →
    view.on = true ∧ (state.value = State.on ∨ state.value = State.unavailable)
  stray_iff : (∃ key ∈ shiningKeys, (state.attributes.find? key).isSome = true
      ∧ state.value ≠ State.on)
    ↔ view.available = false ∧ view.on = true ∧ ∃ key, view.Shines key
  bounds : ∀ key ∈ boundKeys, (state.attributes.find? key).isSome = true →
    ∃ features : UInt32, state.attributes.find? "supported_features" = some (.int features.toNat)
      ∧ features &&& supportColorTemp ≠ 0

theorem published {state : State} (hvalue : state.value = view.value)
    (hattributes : state.attributes = view.attributes)
    : view.Published state := by
  constructor
  . intro key hkey hsome
    rw [hattributes, shining_attribute_iff hkey] at hsome
    refine ⟨hsome.1, ?_⟩
    rw [hvalue]
    cases havailable : view.available with
    | false =>
      right
      simp [View.value, havailable]
    | true => exact .inl (value_eq_on_iff.2 ⟨havailable, hsome.1⟩)
  . rw [hvalue, hattributes]
    constructor
    . rintro ⟨key, hkey, hsome, hne⟩
      obtain ⟨hon, hshines⟩ := (shining_attribute_iff hkey).1 hsome
      refine ⟨?_, hon, key, hshines⟩
      rw [← Bool.not_eq_true]
      exact fun havailable => hne (value_eq_on_iff.2 ⟨havailable, hon⟩)
    . rintro ⟨havailable, hon, key, hshines⟩
      refine ⟨key, hshines.mem, (shining_attribute_iff hshines.mem).2 ⟨hon, hshines⟩, ?_⟩
      intro hvalue
      rw [(value_eq_on_iff.1 hvalue).1] at havailable
      contradiction
  . intro key hkey hsome
    rw [hattributes] at hsome ⊢
    obtain ⟨hsupports, _⟩ := (bound_attribute_iff hkey).1 hsome
    exact ⟨view.features, features_attribute, by simpa [supports] using hsupports⟩

end Light.View

namespace Hub

open Light.View (shiningKeys)

inductive Writes (hub : Hub) (entityId : EntityId) (view : Light.View) : Hub → Prop where
  | inContext (context : Context) :
    Writes hub entityId view (hub.setLight entityId view context).2
  | inNewContext : Writes hub entityId view (hub.showLight entityId view)

variable {hub later : Hub} {entityId : EntityId} {view : Light.View}

theorem exists_published_of_writes (h : hub.Writes entityId view later)
    : ∃ state, later.state? entityId.text = some state ∧ view.Published state := by
  cases h with
  | inContext context =>
    refine ⟨(hub.setLight entityId view context).1, ?_, ?_⟩
    . exact (hub.state?_set _ _ _ _ _).trans (if_pos rfl)
    . exact Light.View.published (hub.value_set _ _ _ _) (hub.attributes_set _ _ _ _)
  | inNewContext =>
    refine ⟨hub.shown entityId view, ?_, ?_⟩
    . exact (hub.state?_showLight entityId view _).trans (if_pos rfl)
    . exact Light.View.published (hub.value_shown entityId view)
        (hub.attributes_shown entityId view)

def unreachableOn : Light.View where
  name := "Kitchen"
  available := false
  polled := false
  features := 33
  on := true
  brightness := some 100

theorem exists_shining_unavailable
    : simulated.Writes .desk unreachableOn (simulated.showLight .desk unreachableOn)
        ∧ ∃ state, (simulated.showLight .desk unreachableOn).state? "light.desk" = some state
          ∧ ∃ key ∈ shiningKeys, (state.attributes.find? key).isSome = true
            ∧ state.value ≠ State.on := by
  obtain ⟨state, hstate, hpublished⟩ :=
    exists_published_of_writes (.inNewContext : simulated.Writes .desk unreachableOn _)
  refine ⟨.inNewContext, state, hstate, hpublished.stray_iff.2 ⟨rfl, rfl, "brightness", ?_⟩⟩
  exact .brightness rfl

theorem not_forall_shining_on
    : ¬ ∀ (hub : Hub) (entityId : EntityId) (view : Light.View) (later : Hub) (state : State),
      hub.Writes entityId view later → later.state? entityId.text = some state →
        ∀ key ∈ shiningKeys, (state.attributes.find? key).isSome = true →
          state.value = State.on := by
  intro h
  have hon := h simulated .desk unreachableOn _ _ .inNewContext rfl "brightness" (by decide) rfl
  exact absurd hon (by decide)

end Hub

end HomeHub
