import HomeHub.Text.Quoted

/-!
Values shown in error messages: names with the fields or the arguments they carry.
-/

namespace HomeHub.Text

inductive Shown where
  | word (w : String)
  | str (s : String)
  | list (items : List Shown)
  | tuple (items : List Shown)
  | call (name : String) (args : List Shown)
  | record (name : String) (fields : List (String × Shown))

namespace Shown

mutual

def render : Shown → String
  | .word w => w
  | .str s => quoted s
  | .list items => "[" ++ renderItems items ++ "]"
  | .tuple items => "(" ++ renderItems items ++ ")"
  | .call name args => name ++ "(" ++ renderItems args ++ ")"
  | .record name fields => name ++ " \x7b " ++ renderFields fields ++ " \x7d"

def renderItems : List Shown → String
  | [] => ""
  | [x] => render x
  | x :: xs => render x ++ ", " ++ renderItems xs

def renderFields : List (String × Shown) → String
  | [] => ""
  | [(name, x)] => name ++ ": " ++ render x
  | (name, x) :: xs => name ++ ": " ++ render x ++ ", " ++ renderFields xs

end

def nat (n : Nat) : Shown :=
  .word (toString n)

def bool (b : Bool) : Shown :=
  .word (if b then "true" else "false")

def option {α : Type} (shown : α → Shown) : Option α → Shown
  | none => .word "None"
  | some a => .call "Some" [shown a]

end Shown

end HomeHub.Text
