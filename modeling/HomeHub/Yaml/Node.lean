import HomeHub.Yaml.Token

/-!
The tree of a YAML document, in which anchors and aliases are not yet resolved.
-/

namespace HomeHub.Yaml

structure Properties where
  anchor : Option Nat := none
  tag : Option Tag := none

inductive Node where
  | alias (anchor : Nat)
  | scalar (properties : Properties) (text : String) (plain : Bool)
  | seq (properties : Properties) (items : List Node)
  | map (properties : Properties) (entries : List (Node × Node))
  deriving Inhabited

namespace Node

def anchored (properties : Properties) (node : Node) : List (Nat × Node) :=
  (properties.anchor.map (·, node)).toList

mutual

def anchors : Node → List (Nat × Node)
  | .alias _ => []
  | .scalar properties text plain => anchored properties (.scalar properties text plain)
  | .seq properties items => anchored properties (.seq properties items) ++ anchorsOfItems items
  | .map properties entries =>
    anchored properties (.map properties entries) ++ anchorsOfEntries entries

def anchorsOfItems : List Node → List (Nat × Node)
  | [] => []
  | node :: rest => anchors node ++ anchorsOfItems rest

def anchorsOfEntries : List (Node × Node) → List (Nat × Node)
  | [] => []
  | (key, value) :: rest => anchors key ++ anchors value ++ anchorsOfEntries rest

end

mutual

def events : Node → Nat
  | .alias _ => 1
  | .scalar _ _ _ => 1
  | .seq _ items => 2 + eventsOfItems items
  | .map _ entries => 2 + eventsOfEntries entries

def eventsOfItems : List Node → Nat
  | [] => 0
  | node :: rest => events node + eventsOfItems rest

def eventsOfEntries : List (Node × Node) → Nat
  | [] => 0
  | (key, value) :: rest => events key + events value + eventsOfEntries rest

end

end Node

end HomeHub.Yaml
