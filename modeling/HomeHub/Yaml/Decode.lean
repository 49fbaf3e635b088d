import HomeHub.Decoding.Layout
import HomeHub.Yaml.Value

/-!
YAML values read as configuration: null counts as an empty mapping or sequence where one is
expected, and unknown keys are errors.
-/

namespace HomeHub.Yaml

open Decoding (Error Fault Found Layout Source)

abbrev Decoder (α : Type) := Yaml → Except Error α

def found (v : Yaml) : Found :=
  match v.untag with
  | .null => .unit
  | .bool b => .bool b
  | .int n => .int n
  | .float x => .float x
  | .str s => .str s
  | .seq _ => .sequence
  | .map _ => .map
  | .tagged _ _ => .unit

def mismatch {α : Type} (v : Yaml) (expected : String) : Except Error α :=
  .error (.wrongType v.found expected)

def floatStyle : Decimal.Style where
  tie := .away

def errorMessage (e : Error) : String :=
  e.message floatStyle

namespace Decode

variable {α β : Type}

def stringFor (expected : String) : Decoder String := fun v =>
  match v.untag with
  | .str s => .ok s
  | _ => v.mismatch expected

def string : Decoder String :=
  stringFor "a string"

def boolean : Decoder Bool := fun v =>
  match v.untag with
  | .bool b => .ok b
  | _ => v.mismatch "a boolean"

def natural (limit : Nat) (expected : String) : Decoder Nat := fun v =>
  match v.untag with
  | .int n => if 0 ≤ n ∧ n < limit then .ok n.toNat else .error (.wrongValue (.int n) expected)
  | _ => v.mismatch expected

def uint16 : Decoder UInt16 := fun v => (natural UInt16.size "u16" v).map UInt16.ofNat

def uint32 : Decoder UInt32 := fun v => (natural UInt32.size "u32" v).map UInt32.ofNat

def uint64 : Decoder UInt64 := fun v => (natural UInt64.size "u64" v).map UInt64.ofNat

def option (decode : Decoder α) : Decoder (Option α)
  | .null => .ok none
  | v => (decode v).map some

def list (decode : Decoder α) : Decoder (List α) := fun v =>
  match v.untag with
  | .null => .ok []
  | .seq items => items.mapM decode
  | _ => v.mismatch "a sequence"

def entries (key : Decoder α) (value : Decoder β) : Decoder (List (α × β)) := fun v =>
  match v.untag with
  | .null => .ok []
  | .map es => es.mapM fun (k, x) => do return (← key k, ← value x)
  | _ => v.mismatch "a map"

def entityId : Decoder EntityId := fun v => do
  match EntityId.parse (← string v) with
  | .ok id => return id
  | .error e => throw (.entityId e)

/--
The first key that is none of the known names, or one that has been met before; two keys that differ
in their tags may have one name.
-/
def wrongKey (known met : List String) : List (Yaml × Yaml) → Nat → Option Fault
  | [], _ => none
  | (key, _) :: rest, place =>
    match stringFor "field identifier" key with
    | .error e => some ⟨place, e⟩
    | .ok name =>
      if !known.contains name then some ⟨place, .unknownField name known⟩
      else if met.contains name then some ⟨place, .duplicateField name⟩
      else wrongKey known (name :: met) rest (place + 1)

def isNamed (key : Yaml) (name : String) : Bool :=
  match key.untag with
  | .str s => s == name
  | _ => false

def record (name : String) (layout : Layout Yaml α) : Decoder α := fun v =>
  match v.untag with
  | .null => layout.run (Source.ofMembers isNamed []) none
  | .map es => layout.run (Source.ofMembers isNamed es) (wrongKey layout.names [] es 0)
  | _ => v.mismatch ("struct " ++ name)

end Decode

end HomeHub.Yaml
