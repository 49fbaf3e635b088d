import HomeHub.Decimal.Style
import HomeHub.EntityId.Basic
import HomeHub.Text.Quoted
import HomeHub.Timestamp.Text

/-!
Why a value of a data format does not stand for a value of a type.
-/

namespace HomeHub.Decoding

inductive Found where
  | int (n : Int)
  | float (x : Float)
  | bool (b : Bool)
  | str (s : String)
  | null
  | unit
  | sequence
  | map

def Found.text (style : Decimal.Style) : Found → String
  | .int n => "integer `" ++ toString n ++ "`"
  | .float x => "floating point `" ++ style.render x ++ "`"
  | .bool b => "boolean `" ++ (if b then "true" else "false") ++ "`"
  | .str s => "string " ++ Text.quoted s
  | .null => "null"
  | .unit => "unit value"
  | .sequence => "sequence"
  | .map => "map"

inductive Error where
  | wrongType (found : Found) (expected : String)
  | wrongValue (found : Found) (expected : String)
  | wrongLength (length : Nat) (expected : String)
  | missingField (name : String)
  | unknownField (name : String) (known : List String)
  | duplicateField (name : String)
  | entityId (error : EntityId.Error)
  | timestamp (error : Timestamp.Error)

def alternatives : List String → String
  | [] => "there are no fields"
  | [a] => "expected `" ++ a ++ "`"
  | [a, b] => "expected `" ++ a ++ "` or `" ++ b ++ "`"
  | names => "expected one of " ++ ", ".intercalate (names.map fun name => "`" ++ name ++ "`")

def Error.message (style : Decimal.Style) : Error → String
  | .wrongType found expected => "invalid type: " ++ found.text style ++ ", expected " ++ expected
  | .wrongValue found expected => "invalid value: " ++ found.text style ++ ", expected " ++ expected
  | .wrongLength n expected => "invalid length " ++ toString n ++ ", expected " ++ expected
  | .missingField name => "missing field `" ++ name ++ "`"
  | .unknownField name known => "unknown field `" ++ name ++ "`, " ++ alternatives known
  | .duplicateField name => "duplicate field `" ++ name ++ "`"
  | .entityId e => e.message
  | .timestamp e => e.message

end HomeHub.Decoding
