/-!
JSON values. Whole numbers and floating-point numbers are different values, and the members of an
object stand in ascending order of their keys.
-/

namespace HomeHub

/-- A JSON value; an object is a list of members in ascending key order, each key once. -/
inductive Json where
  | null
  | bool (b : Bool)
  | int (n : Int)
  | float (x : Float)
  | str (s : String)
  | arr (items : List Json)
  | obj (members : List (String × Json))
  deriving Inhabited

namespace Json

abbrev Object := List (String × Json)

mutual

/--
Equality of values: `1` and `1.0` differ, and two floating-point numbers are compared as numbers.
-/
def beq : Json → Json → Bool
  | .null, .null => true
  | .bool a, .bool b => a == b
  | .int a, .int b => a == b
  | .float a, .float b => a == b
  | .str a, .str b => a == b
  | .arr a, .arr b => beqItems a b
  | .obj a, .obj b => beqMembers a b
  | _, _ => false

def beqItems : List Json → List Json → Bool
  | [], [] => true
  | x :: xs, y :: ys => beq x y && beqItems xs ys
  | _, _ => false

def beqMembers : Object → Object → Bool
  | [], [] => true
  | (k, x) :: xs, (l, y) :: ys => k == l && beq x y && beqMembers xs ys
  | _, _ => false

end

instance : BEq Json := ⟨beq⟩

def ofFloat (x : Float) : Json :=
  if x.isFinite then .float x else .null

namespace Object

def find? (key : String) : Object → Option Json
  | [] => none
  | (k, v) :: rest => if k = key then some v else find? key rest

def insert (key : String) (value : Json) : Object → Object
  | [] => [(key, value)]
  | (k, v) :: rest =>
    if k = key then (key, value) :: rest
    else if key < k then (key, value) :: (k, v) :: rest
    else (k, v) :: insert key value rest

def ofList (members : List (String × Json)) : Object :=
  members.foldl (fun object (k, v) => object.insert k v) []

@[simp] theorem find?_insert_self (key : String) (value : Json) (object : Object) :
    find? key (insert key value object) = some value := by
  induction object with
  | nil => simp [insert, find?]
  | cons member rest ih =>
    rcases member with ⟨k, v⟩
    simp only [insert]
    split
    · simp [find?]
    · split <;> simp_all [find?]

theorem find?_insert_of_ne {key other : String} (h : other ≠ key) (value : Json)
    (object : Object) : find? other (insert key value object) = find? other object := by
  induction object with
  | nil => simp [insert, find?, Ne.symm h]
  | cons member rest ih =>
    rcases member with ⟨k, v⟩
    simp only [insert]
    split
    · next hk => subst hk; simp [find?, Ne.symm h]
    · split <;> simp_all [find?, Ne.symm h]

theorem find?_insert (key other : String) (value : Json) (object : Object) :
    find? other (insert key value object) =
      if other = key then some value else find? other object := by
  split
  · next h => subst h; simp
  · next h => exact find?_insert_of_ne h value object

end Object

def member? (key : String) : Json → Option Json
  | .obj members => Object.find? key members
  | _ => none

def asString? : Json → Option String
  | .str s => some s
  | _ => none

end Json

end HomeHub
