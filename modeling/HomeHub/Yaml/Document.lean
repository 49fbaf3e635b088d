import HomeHub.Yaml.Node.Grammar
import HomeHub.Yaml.Number
import HomeHub.Yaml.Token.Lexer
import HomeHub.Yaml.Value

/-!
YAML texts read into values.
-/

namespace HomeHub.Yaml

/-! ### Scalars -/

namespace Scalar

def isNull (s : String) : Bool :=
  s ∈ ["~", "null", "Null", "NULL"]

def boolean? (s : String) : Option Bool :=
  if s ∈ ["true", "True", "TRUE"] then some true
  else if s ∈ ["false", "False", "FALSE"] then some false
  else none

def ofInteger? (n : Int) : Option Yaml :=
  if Int64.minValue.toInt ≤ n ∧ n < UInt64.size then some (.int n) else none

def integer? (s : String) : Option Int := do
  let n ← Number.integer? s.toList
  guard (Number.isWide n)
  return n

def ofPlain? (s : String) : Option Yaml :=
  if s = "" ∨ isNull s then some .null
  else
    match boolean? s, integer? s with
    | some b, _ => some (.bool b)
    | none, some n => ofInteger? n
    | none, none =>
      if Number.isZeroPadded s.toList then some (.str s)
      else some (((Number.float? s).map .float).getD (.str s))

def untagged? (s : String) (plain : Bool) : Option Yaml :=
  if plain then ofPlain? s else some (.str s)

def nullTag : String := "tag:yaml.org,2002:null"

def ofGlobalTag? (uri s : String) : Option Yaml :=
  if uri = nullTag then if isNull s then some .null else none
  else if uri = "tag:yaml.org,2002:bool" then (boolean? s).map .bool
  else if uri = "tag:yaml.org,2002:int" then (integer? s).bind ofInteger?
  else if uri = "tag:yaml.org,2002:float" then (Number.float? s).map .float
  else some (.str s)

end Scalar

/-! ### Nodes -/

def deepest : Nat := 128

/-- Aliases may be followed so many times for each event of a document. -/
def aliasesPerEvent : Nat := 100

abbrev Resolve (α : Type) := StateT Nat Option α

namespace Node

def target? (anchors : List (Nat × Node)) (anchor : Nat) : Option Node :=
  anchors.reverse.lookup anchor

def follow (anchors : List (Nat × Node)) : Node → Resolve Node
  | .alias anchor => do
    let left ← get
    guard (0 < left)
    set (left - 1)
    target? anchors anchor
  | node => pure node

def tagged (properties : Properties) (value : Yaml) : Yaml :=
  match properties.tag with
  | some (.named name) => .tagged name value
  | _ => value

def resolve (anchors : List (Nat × Node)) : Nat → Node → Resolve Yaml
  | depth, node => do
    match ← node.follow anchors, depth with
    | .alias _, _ => failure
    | .scalar properties text plain, _ =>
      match properties.tag with
      | some (.global uri) => Scalar.ofGlobalTag? uri text
      | _ => return tagged properties (← Scalar.untagged? text plain)
    | .seq _ _, 0 => failure
    | .map _ _, 0 => failure
    | .seq properties items, depth + 1 => do
      return tagged properties (.seq (← items.mapM (resolve anchors depth)))
    | .map properties entries, depth + 1 => do
      let add (read : List (Yaml × Yaml)) (entry : Node × Node) : Resolve (List (Yaml × Yaml)) := do
        let key ← resolve anchors depth entry.1
        guard (!read.any (·.1 == key))
        return read ++ [(key, ← resolve anchors depth entry.2)]
      return tagged properties (.map (← entries.foldlM add []))

def reading {α : Type} (root : Node) (read : List (Nat × Node) → Resolve α) : Option α :=
  ((read root.anchors).run (aliasesPerEvent * root.events)).map (·.1)

end Node

def document? (text : String) : Option (Option Node) := do
  Node.ofTokens? (← Token.ofText? text).toList

def read? (text : String) : Option Yaml := do
  match ← document? text with
  | none => return .null
  | some root => root.reading fun anchors => root.resolve anchors deepest

end HomeHub.Yaml
