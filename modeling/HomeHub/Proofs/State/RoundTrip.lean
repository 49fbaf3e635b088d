import HomeHub.Proofs.Decoding.Layout
import HomeHub.Proofs.EntityId.RoundTrip
import HomeHub.Proofs.Timestamp.RoundTrip
import HomeHub.State.Change

/-!
Contexts, states and changes come out of their JSON as they went in.
-/

namespace HomeHub

open Decoding (Layout Source)

namespace Json.Decode

variable {α : Type}

@[simp]
theorem string_str (s : String) : string (.str s) = .ok s := by
  rfl

@[simp]
theorem object_obj (members : Object) : object (.obj members) = .ok members := by
  rfl

@[simp]
theorem option_str (decode : Decoder α) (s : String)
    : option decode (.str s) = (decode (.str s)).map some := by
  rfl

@[simp]
theorem option_obj (decode : Decoder α) (members : Object)
    : option decode (.obj members) = (decode (.obj members)).map some := by
  rfl

@[simp]
theorem entityId_text (id : EntityId) : entityId (.str id.text) = .ok id := by
  unfold entityId
  rw [string_str]
  simp [EntityId.parse_text, bind, Except.bind, pure, Except.pure]

@[simp]
theorem timestamp_text (t : Timestamp) : timestamp (.str t.text) = .ok t := by
  unfold timestamp
  simp [Timestamp.parse_text]

theorem record_obj {name : String} {layout : Layout Json α} {members : Object} {a : α}
    (h : layout.read (Source.ofMembers (· == ·) members) 0 = .ok a)
    : record name layout (.obj members) = .ok a := by
  exact Layout.run_of_read h

end Json.Decode

@[simp]
theorem Context.ofJson_toJson (context : Context) : ofJson context.toJson = .ok context := by
  obtain ⟨id, userId, parentId⟩ := context
  apply Json.Decode.record_obj
  cases userId with
  | none => cases parentId <;> simp [layout, Except.map]
  | some userId => cases parentId <;> simp [layout, Except.map]

@[simp]
theorem State.ofJson_toJson (state : State) : ofJson state.toJson = .ok state := by
  apply Json.Decode.record_obj
  simp [layout]

theorem StateChange.option_ofJson (state : Option State)
    : Json.Decode.option State.ofJson ((state.map State.toJson).getD .null) = .ok state := by
  cases state with
  | none => rfl
  | some state =>
    -- An object is not null, which the decoder can tell only once the state is unfolded.
    have h := State.ofJson_toJson state
    unfold State.toJson at h
    simp [State.toJson, h, Except.map]

@[simp]
theorem StateChange.ofJson_toJson (change : StateChange) : ofJson change.toJson = .ok change := by
  apply Json.Decode.record_obj
  simp [layout, option_ofJson]

end HomeHub
