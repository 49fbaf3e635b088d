/-!
The tags of YAML values.
-/

namespace HomeHub.Yaml

/-- The characters of a tag; one whose escaped bytes encode no character is absent. -/
abbrev Spelling := List (Option Char)

namespace Spelling

def ofString (s : String) : Spelling :=
  s.toList.map some

def counted (spelling : Spelling) : Spelling :=
  spelling.takeWhile (· != some '\x00')

end Spelling

inductive Tag where
  | named (name : String)
  | nameless
  | global (uri : String)
  deriving DecidableEq, Repr

namespace Tag

def unmarked : List Char → List Char
  | '!' :: c :: rest => c :: rest
  | name => name

def ofSpelling (spelling : Spelling) : Tag :=
  match spelling with
  | some '!' :: _ =>
    match spelling.mapM id with
    | some name => .named (String.ofList (unmarked (unmarked name)))
    | none => .nameless
  | _ => .global (String.ofList (spelling.map (·.getD '\ufffd')))

end Tag

end HomeHub.Yaml
