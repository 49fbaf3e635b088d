import HomeHub.Event
import HomeHub.Gateway.Device
import HomeHub.Proofs.State.RoundTrip
import HomeHub.Service.Call

/-!
All that goes over a wire comes out of its JSON as it went in. What a reader would fill in by itself
is written out, so that a value which has been read and written again is read as before.
-/

namespace HomeHub

open Decoding (Layout Source)

namespace Json

variable {α β : Type}

def keys : Json → List String
  | .obj members => members.map Prod.fst
  | _ => []

/--
Values are read as they were written, and what has been read stays so when it is written. Each of
the given fields stands in the JSON once, and nothing else does.
-/
structure RoundTrips (encode : α → Json) (decode : Decoder α) (fields : α → List String) :
    Prop where
  decode_encode : ∀ a, decode (encode a) = .ok a
  decode_again : ∀ v, (decode v >>= fun a => decode (encode a)) = decode v
  explicit : ∀ a, (encode a).keys.Perm (fields a)

theorem roundTrips_of_decode_encode {encode : α → Json} {decode : Decoder α}
    {fields : α → List String} (h : ∀ a, decode (encode a) = .ok a)
    (hfields : ∀ a, (encode a).keys.isPerm (fields a) = true)
    : RoundTrips encode decode fields := by
  constructor
  . exact h
  . intro v
    cases hv : decode v with
    | error e => rfl
    | ok a => exact h a
  . intro a
    exact List.isPerm_iff.1 (hfields a)

namespace Decode

@[simp]
theorem json_self (v : Json) : json v = .ok v := by
  rfl

@[simp]
theorem boolean_bool (b : Bool) : boolean (.bool b) = .ok b := by
  rfl

theorem whole_int {n high : Nat} (h : n < high) (expected : String)
    : whole 0 high expected (.int n) = .ok (n : Int) := by
  unfold whole
  dsimp only
  rw [if_pos (by omega)]

@[simp]
theorem uint8_int (n : UInt8) : uint8 (.int n.toNat) = .ok n := by
  unfold uint8
  rw [whole_int n.toNat_lt]
  simp [Except.map]

@[simp]
theorem uint16_int (n : UInt16) : uint16 (.int n.toNat) = .ok n := by
  unfold uint16
  rw [whole_int n.toNat_lt]
  simp [Except.map]

@[simp]
theorem uint32_int (n : UInt32) : uint32 (.int n.toNat) = .ok n := by
  unfold uint32
  rw [whole_int n.toNat_lt]
  simp [Except.map]

@[simp]
theorem uint64_int (n : UInt64) : uint64 (.int n.toNat) = .ok n := by
  unfold uint64
  rw [whole_int n.toNat_lt]
  simp [Except.map]

theorem option_of_ne_null (decode : Decoder α) {v : Json} (h : v ≠ .null)
    : option decode v = (decode v).map some := by
  unfold option
  split
  . contradiction
  . rfl

theorem option_orNull {encode : α → Json} {decode : Decoder α}
    (h : ∀ a, decode (encode a) = .ok a) (hnull : ∀ a, encode a ≠ .null) (a : Option α)
    : option decode (Gateway.orNull encode a) = .ok a := by
  cases a with
  | none => rfl
  | some a =>
    have hsome : Gateway.orNull encode (some a) = encode a := by rfl
    rw [hsome]
    rw [option_of_ne_null decode (hnull a)]
    rw [h]
    rfl

theorem list_map {encode : α → Json} {decode : Decoder α} (h : ∀ a, decode (encode a) = .ok a)
    (items : List α)
    : list decode (.arr (items.map encode)) = .ok items := by
  unfold list
  induction items with
  | nil => rfl
  | cons item items ih =>
    dsimp only at ih ⊢
    rw [List.map_cons, List.mapM_cons]
    rw [h, ih]
    rfl

theorem pair_arr {first : Decoder α} {second : Decoder β} {v w : Json} {a : α} {b : β}
    (hfirst : first v = .ok a) (hsecond : second w = .ok b)
    : pair first second (.arr [v, w]) = .ok (a, b) := by
  apply Layout.run_of_read
  simp [hfirst, hsecond]

end Decode

end Json

/-! ### Records -/

theorem Event.ofJson_toJson {α : Type} {encode : α → Json} {decode : Json.Decoder α}
    (h : ∀ data, decode (encode data) = .ok data) (event : Event α)
    : ofJson decode (event.toJson encode) = .ok event := by
  apply Json.Decode.record_obj
  simp [layout, h]

theorem ServiceCall.ofJson_toJson (call : ServiceCall) : ofJson call.toJson = .ok call := by
  apply Json.Decode.record_obj
  simp [layout]

namespace Gateway

theorem LightData.ofJson_toJson (light : LightData) : ofJson light.toJson = .ok light := by
  have hcolorTemp := Json.Decode.option_orNull Json.Decode.uint16_int (by simp) light.colorTemp
  have hhexColor := Json.Decode.option_orNull Json.Decode.string_str (by simp) light.hexColor
  have hxyColor := Json.Decode.option_orNull
    (fun xy : UInt32 × UInt32 =>
      Json.Decode.pair_arr (Json.Decode.uint32_int xy.1) (Json.Decode.uint32_int xy.2))
    (by simp) light.xyColor
  apply Json.Decode.record_obj
  simp [layout, hcolorTemp, hhexColor, hxyColor]

theorem LightControl.ofJson_toJson (control : LightControl)
    : ofJson control.toJson = .ok control := by
  have hlights := Json.Decode.list_map LightData.ofJson_toJson control.lights
  apply Json.Decode.record_obj
  simp [layout, hlights]

theorem Device.ofJson_toJson (device : Device) : ofJson device.toJson = .ok device := by
  have hcontrol := Json.Decode.option_orNull LightControl.ofJson_toJson
    (by simp [LightControl.toJson]) device.lightControl
  apply Json.Decode.record_obj
  simp [layout, hcontrol]

theorem Group.ofJson_toJson (group : Group) : ofJson group.toJson = .ok group := by
  apply Json.Decode.record_obj
  simp [layout]

end Gateway

/-! ### Everything that goes over a wire -/

def Context.fields (context : Context) : List String :=
  ["id"] ++ (context.userId.map fun _ => "user_id").toList ++
    (context.parentId.map fun _ => "parent_id").toList

namespace Json

theorem roundTrips_context : RoundTrips Context.toJson Context.ofJson Context.fields := by
  apply roundTrips_of_decode_encode Context.ofJson_toJson
  intro context
  obtain ⟨id, userId, parentId⟩ := context
  cases userId with
  | none => cases parentId <;> rfl
  | some userId => cases parentId <;> rfl

theorem roundTrips_stateChange
    : RoundTrips StateChange.toJson StateChange.ofJson fun _ => StateChange.layout.names := by
  exact roundTrips_of_decode_encode StateChange.ofJson_toJson fun _ => rfl

theorem roundTrips_event {α : Type} {encode : α → Json} {decode : Decoder α}
    {fields : α → List String} (h : RoundTrips encode decode fields)
    : RoundTrips (Event.toJson encode) (Event.ofJson decode)
        fun _ => (Event.layout decode).names := by
  exact roundTrips_of_decode_encode (Event.ofJson_toJson h.decode_encode) fun _ => rfl

theorem decode_encode_wire
    : RoundTrips Context.toJson Context.ofJson Context.fields
      ∧ (RoundTrips State.toJson State.ofJson fun _ => State.layout.names)
      ∧ (RoundTrips StateChange.toJson StateChange.ofJson fun _ => StateChange.layout.names)
      ∧ (∀ (α : Type) (encode : α → Json) (decode : Decoder α) (fields : α → List String),
        RoundTrips encode decode fields →
          RoundTrips (Event.toJson encode) (Event.ofJson decode)
            fun _ => (Event.layout decode).names)
      ∧ (RoundTrips (Event.toJson id) (Event.ofJson Decode.json)
        fun _ => (Event.layout Decode.json).names)
      ∧ (RoundTrips (Event.toJson StateChange.toJson) (Event.ofJson StateChange.ofJson)
        fun _ => (Event.layout StateChange.ofJson).names)
      ∧ (RoundTrips ServiceCall.toJson ServiceCall.ofJson fun _ => ServiceCall.layout.names)
      ∧ (RoundTrips Gateway.LightData.toJson Gateway.LightData.ofJson
        fun _ => Gateway.LightData.layout.names)
      ∧ (RoundTrips Gateway.LightControl.toJson Gateway.LightControl.ofJson
        fun _ => Gateway.LightControl.layout.names)
      ∧ (RoundTrips Gateway.Device.toJson Gateway.Device.ofJson
        fun _ => Gateway.Device.layout.names)
      ∧ (RoundTrips Gateway.Group.toJson Gateway.Group.ofJson
        fun _ => Gateway.Group.layout.names) := by
  have hraw : RoundTrips id Decode.json keys := by
    exact roundTrips_of_decode_encode Decode.json_self fun v => List.isPerm_iff.2 (.refl _)
  refine ⟨roundTrips_context, ?_, roundTrips_stateChange, ?_, roundTrips_event hraw,
    roundTrips_event roundTrips_stateChange, ?_, ?_, ?_, ?_, ?_⟩
  . exact roundTrips_of_decode_encode State.ofJson_toJson fun _ => rfl
  . intro α encode decode fields h
    exact roundTrips_event h
  . exact roundTrips_of_decode_encode ServiceCall.ofJson_toJson fun _ => rfl
  . exact roundTrips_of_decode_encode Gateway.LightData.ofJson_toJson fun _ => rfl
  . exact roundTrips_of_decode_encode Gateway.LightControl.ofJson_toJson fun _ => rfl
  . exact roundTrips_of_decode_encode Gateway.Device.ofJson_toJson fun _ => rfl
  . exact roundTrips_of_decode_encode Gateway.Group.ofJson_toJson fun _ => rfl

theorem decode_encode_group_event
    : (RoundTrips Gateway.Group.toJson Gateway.Group.ofJson fun _ => Gateway.Group.layout.names)
      ∧ RoundTrips (Event.toJson Gateway.Group.toJson) (Event.ofJson Gateway.Group.ofJson)
        fun _ => (Event.layout Gateway.Group.ofJson).names := by
  obtain ⟨_, _, _, hevent, _, _, _, _, _, _, hgroup⟩ := decode_encode_wire
  exact ⟨hgroup, hevent _ _ _ _ hgroup⟩

end Json

end HomeHub
