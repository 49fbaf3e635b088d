import HomeHub.Text.Blank
import HomeHub.Yaml.Document

/-!
The configuration file: one section for each integration. Sections that nobody knows are left to
other programs.
-/

namespace HomeHub

inductive File where
  | absent
  | unreadable
  | content (bytes : ByteArray)

/-- What a path leads to in an empty folder: the folder itself, one around it, or nothing. -/
def File.inEmptyFolder (path : String) : File :=
  if path != "" && (path.splitOn "/").all ["", ".", ".."].contains then .unreadable else .absent

def File.text? : File → Option String
  | .content bytes => String.fromUTF8? bytes
  | _ => none

structure Settings where
  bridge : Option Yaml := none
  gateway : Option Yaml := none

namespace Settings

inductive Error where
  | unreadable (path : String)
  | malformed
  deriving DecidableEq, Repr

def Error.message : Error → String
  | .unreadable path => "Failed to read " ++ path
  | .malformed => "Failed to parse configuration"

def bridgeKey : String := "homekit"

def gatewayKey : String := "tradfri"

open Yaml (Node Resolve)
open Yaml.Scalar (isNull nullTag)

def key (anchors : List (Nat × Node)) (node : Node) : Resolve String := do
  match ← node.follow anchors with
  | .scalar _ text _ => return text
  | _ => failure

def isAbsent? : Node → Option Bool
  | .scalar properties text plain =>
    if !plain then some false
    else
      match properties.tag with
      | none => some (text = "" || isNull text)
      | some tag =>
        if tag = .global nullTag then if isNull text then some true else none
        else some false
  | _ => some false

def sectionDepth : Nat := Yaml.deepest - 1

def sectionOf (anchors : List (Nat × Node)) (node : Node) : Resolve (Option Yaml) := do
  let node ← node.follow anchors
  if ← isAbsent? node then return none
  else return some (← node.resolve anchors sectionDepth)

structure Met where
  bridge : Option (Option Yaml) := none
  gateway : Option (Option Yaml) := none

def addEntry (anchors : List (Nat × Node)) (met : Met) (entry : Node × Node) : Resolve Met := do
  let name ← key anchors entry.1
  if name = bridgeKey then
    guard met.bridge.isNone
    return { met with bridge := some (← sectionOf anchors entry.2) }
  else if name = gatewayKey then
    guard met.gateway.isNone
    return { met with gateway := some (← sectionOf anchors entry.2) }
  else return met

def ofNode? (root : Node) : Option Settings :=
  match root with
  | .map _ entries => do
    let met ← root.reading fun anchors => entries.foldlM (addEntry anchors) {}
    return { bridge := met.bridge.join, gateway := met.gateway.join }
  | .scalar _ "" true => some {}
  | _ => none

def parse (text : String) : Except Error Settings :=
  if Text.isBlankText text then .ok {}
  else
    match Yaml.document? text with
    | none => .error .malformed
    | some none => .ok {}
    | some (some root) =>
      match ofNode? root with
      | some settings => .ok settings
      | none => .error .malformed

def load (path : String) (file : File) : Except Error Settings :=
  match file.text? with
  | some text => parse text
  | none => .error (.unreadable path)

end Settings

end HomeHub
