import HomeHub.Decoding.Layout
import HomeHub.Json.Compact

/-!
JSON values read as values of other types.
-/

namespace HomeHub.Json

open Decoding (Error Found Layout Source Fault)

abbrev Decoder (α : Type) := Json → Except Error α

def found : Json → Found
  | .null => .null
  | .bool b => .bool b
  | .int n => .int n
  | .float x => .float x
  | .str s => .str s
  | .arr _ => .sequence
  | .obj _ => .map

def mismatch {α : Type} (v : Json) (expected : String) : Except Error α :=
  .error (.wrongType v.found expected)

def errorMessage (e : Error) : String :=
  e.message floatStyle

namespace Decode

variable {α β γ : Type}

def json : Decoder Json := .ok

def string : Decoder String
  | .str s => .ok s
  | v => v.mismatch "a string"

def boolean : Decoder Bool
  | .bool b => .ok b
  | v => v.mismatch "a boolean"

def whole (low high : Int) (expected : String) : Decoder Int
  | .int n => if low ≤ n ∧ n < high then .ok n else .error (.wrongValue (.int n) expected)
  | v => v.mismatch expected

def uint8 : Decoder UInt8 := fun v =>
  (whole 0 UInt8.size "u8" v).map fun n => UInt8.ofNat n.toNat

def uint16 : Decoder UInt16 := fun v =>
  (whole 0 UInt16.size "u16" v).map fun n => UInt16.ofNat n.toNat

def uint32 : Decoder UInt32 := fun v =>
  (whole 0 UInt32.size "u32" v).map fun n => UInt32.ofNat n.toNat

def uint64 : Decoder UInt64 := fun v =>
  (whole 0 UInt64.size "u64" v).map fun n => UInt64.ofNat n.toNat

def int64 : Decoder Int :=
  whole Int64.minValue.toInt (Int64.maxValue.toInt + 1) "i64"

def float : Decoder Float
  | .float x => .ok x
  | .int n => .ok (Float.ofInt n)
  | v => v.mismatch "f64"

def option (decode : Decoder α) : Decoder (Option α)
  | .null => .ok none
  | v => (decode v).map some

def list (decode : Decoder α) : Decoder (List α)
  | .arr items => items.mapM decode
  | v => v.mismatch "a sequence"

def object : Decoder Object
  | .obj members => .ok members
  | v => v.mismatch "a map"

def overlong (items : List Json) (count : Nat) : Option Fault :=
  if count < items.length then
    some ⟨count, .wrongLength items.length "fewer elements in array"⟩
  else none

def record (name : String) (layout : Layout Json α) : Decoder α
  | .obj members => layout.run (Source.ofMembers (· == ·) members) none
  | .arr items =>
    let count := layout.names.length
    let expected := "struct " ++ name ++ " with " ++ toString count ++ " elements"
    layout.run (Source.ofItems items expected) (overlong items count)
  | v => v.mismatch ("struct " ++ name)

def tuple (layout : Layout Json α) : Decoder α
  | .arr items =>
    let count := layout.names.length
    layout.run (Source.ofItems items ("a tuple of size " ++ toString count)) (overlong items count)
  | v => v.mismatch ("a tuple of size " ++ toString layout.names.length)

def pair (first : Decoder α) (second : Decoder β) : Decoder (α × β) :=
  tuple (Prod.mk <$> .required "0" first <*> .required "1" second)

def triple (first : Decoder α) (second : Decoder β) (third : Decoder γ) : Decoder (α × β × γ) :=
  tuple ((fun a b c => (a, b, c)) <$> .required "0" first <*> .required "1" second <*>
    .required "2" third)

def entityId : Decoder EntityId := fun v => do
  match EntityId.parse (← string v) with
  | .ok id => return id
  | .error e => throw (.entityId e)

def timestamp : Decoder Timestamp
  | .str s =>
    match Timestamp.parse s with
    | .ok t => .ok t
    | .error e => .error (.timestamp e)
  | v => v.mismatch "an RFC 3339 formatted date and time string"

end Decode

end HomeHub.Json
