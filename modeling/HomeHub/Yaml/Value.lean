import HomeHub.Json.Basic

/-!
YAML values.
-/

namespace HomeHub

/-- A YAML value; the entries of a mapping stand in the order of the document, each key once. -/
inductive Yaml where
  | null
  | bool (b : Bool)
  | int (n : Int)
  | float (x : Float)
  | str (s : String)
  | seq (items : List Yaml)
  | map (entries : List (Yaml × Yaml))
  | tagged (tag : String) (value : Yaml)
  deriving Inhabited

namespace Yaml

mutual

/-- Equality of keys: floating-point numbers are compared as numbers, and NaN equals itself. -/
def beq : Yaml → Yaml → Bool
  | .null, .null => true
  | .bool a, .bool b => a == b
  | .int a, .int b => a == b
  | .float a, .float b => a == b || (a.isNaN && b.isNaN)
  | .str a, .str b => a == b
  | .seq a, .seq b => beqItems a b
  | .map a, .map b => a.length == b.length && subEntries a b
  | .tagged t a, .tagged u b => t == u && beq a b
  | _, _ => false

def beqItems : List Yaml → List Yaml → Bool
  | [], [] => true
  | x :: xs, y :: ys => beq x y && beqItems xs ys
  | _, _ => false

def subEntries : List (Yaml × Yaml) → List (Yaml × Yaml) → Bool
  | [], _ => true
  | (k, x) :: rest, entries =>
    entries.any (fun (l, y) => beq k l && beq x y) && subEntries rest entries

end

instance : BEq Yaml := ⟨beq⟩

def untag : Yaml → Yaml
  | .tagged _ value => untag value
  | value => value

mutual

def ofJson : Json → Yaml
  | .null => .null
  | .bool b => .bool b
  | .int n => .int n
  | .float x => .float x
  | .str s => .str s
  | .arr items => .seq (ofItems items)
  | .obj members => .map (ofMembers members)

def ofItems : List Json → List Yaml
  | [] => []
  | x :: xs => ofJson x :: ofItems xs

def ofMembers : Json.Object → List (Yaml × Yaml)
  | [] => []
  | (k, x) :: rest => (.str k, ofJson x) :: ofMembers rest

end

end Yaml

end HomeHub
