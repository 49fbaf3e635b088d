import HomeHub.Yaml.Node

/-!
Tokens read as the tree of a document.
-/

namespace HomeHub.Yaml

structure Reading where
  tokens : List Token
  anchors : List (String × Nat) := []
  handles : List (String × Spelling) := []

abbrev Grammar (α : Type) := StateT Reading Option α

namespace Grammar

def peek : Grammar (Option Token) := do
  return (← get).tokens.head?

def skip : Grammar Unit :=
  modify fun r => { r with tokens := r.tokens.tail }

def isNext (token : Token) : Grammar Bool := do
  return (← peek) == some token

def take (token : Token) : Grammar Bool := do
  if ← isNext token then
    skip
    return true
  else return false

def isNextOf (tokens : List Token) : Grammar Bool := do
  return (← peek).any tokens.contains

def emptyNode : Node :=
  .scalar {} "" true

/-! ### Properties -/

def declare (name : String) : Grammar Nat := do
  let r ← get
  -- The number is how many names are in use, so names may come to share one.
  let number := r.anchors.length
  set { r with anchors := (name, number) :: r.anchors.filter (·.1 != name) }
  return number

def standardHandles : List (String × Spelling) :=
  [("!", .ofString "!"), ("!!", .ofString "tag:yaml.org,2002:")]

def fullTag (handle : String) (suffix : Spelling) : Grammar Tag := do
  if handle = "" then return .ofSpelling suffix
  else
    match ((← get).handles ++ standardHandles).lookup handle with
    | some replacement => return .ofSpelling (replacement ++ suffix)
    | none => failure

def anchor? : Grammar (Option Nat) := do
  match ← peek with
  | some (.anchor name) =>
    skip
    return some (← declare name)
  | _ => return none

def tag? : Grammar (Option (String × Spelling)) := do
  match ← peek with
  | some (.tag handle suffix) =>
    skip
    return some (handle, suffix)
  | _ => return none

def properties : Grammar Properties := do
  let anchor ← anchor?
  let tag ← tag?
  let anchor ← if anchor.isNone && tag.isSome then anchor? else pure anchor
  return { anchor, tag := ← tag.mapM fun (handle, suffix) => fullTag handle suffix }

def comma (first : Bool) : Grammar Unit := do
  unless first do guard (← take .flowEntry)

/-! ### Nodes -/

mutual

/--
Reads a node. Blocks are read only where they may stand, and a sequence without indentation only as
a part of a mapping.
-/
def node (block indentless : Bool) : Nat → Grammar Node
  | 0 => failure
  | fuel + 1 => do
    match ← peek with
    | some (.alias name) =>
      skip
      match (← get).anchors.lookup name with
      | some number => return .alias number
      | none => failure
    | _ =>
      let properties ← properties
      if indentless && (← isNext .blockEntry) then return .seq properties (← bareItems fuel)
      else
        match ← peek with
        | some (.scalar text plain) =>
          skip
          return .scalar properties text plain
        | some .flowSequenceStart =>
          skip
          return .seq properties (← flowItems true fuel)
        | some .flowMappingStart =>
          skip
          return .map properties (← flowEntries true fuel)
        | some .blockSequenceStart =>
          guard block
          skip
          return .seq properties (← blockItems fuel)
        | some .blockMappingStart =>
          guard block
          skip
          return .map properties (← blockEntries fuel)
        | _ =>
          guard (properties.anchor.isSome || properties.tag.isSome)
          return .scalar properties "" true

def nodeUnless (block indentless : Bool) (tokens : List Token) : Nat → Grammar Node
  | 0 => failure
  | fuel + 1 => do
    if ← isNextOf tokens then return emptyNode else node block indentless fuel

def blockItems : Nat → Grammar (List Node)
  | 0 => failure
  | fuel + 1 => do
    if ← take .blockEntry then
      let item ← nodeUnless true false [.blockEntry, .blockEnd] fuel
      return item :: (← blockItems fuel)
    else
      guard (← take .blockEnd)
      return []

def bareItems : Nat → Grammar (List Node)
  | 0 => failure
  | fuel + 1 => do
    if ← take .blockEntry then
      let item ← nodeUnless true false [.blockEntry, .key, .value, .blockEnd] fuel
      return item :: (← bareItems fuel)
    else return []

def blockEntries : Nat → Grammar (List (Node × Node))
  | 0 => failure
  | fuel + 1 => do
    if ← take .key then
      let key ← nodeUnless true true [.key, .value, .blockEnd] fuel
      let value ←
        if ← take .value then nodeUnless true true [.key, .value, .blockEnd] fuel
        else pure emptyNode
      return (key, value) :: (← blockEntries fuel)
    else
      guard (← take .blockEnd)
      return []

def flowItems (first : Bool) : Nat → Grammar (List Node)
  | 0 => failure
  | fuel + 1 => do
    if ← take .flowSequenceEnd then return []
    comma first
    if ← take .flowSequenceEnd then return []
    let item ← if ← take .key then pairItem fuel else node false false fuel
    return item :: (← flowItems false fuel)

def pairItem : Nat → Grammar Node
  | 0 => failure
  | fuel + 1 => do
    let isEmpty ← isNextOf [.value, .flowEntry, .flowSequenceEnd]
    let key ← nodeUnless false false [.value, .flowEntry, .flowSequenceEnd] fuel
    if isEmpty then skip
    let value ←
      if ← take .value then nodeUnless false false [.flowEntry, .flowSequenceEnd] fuel
      else pure emptyNode
    return .map {} [(key, value)]

def flowEntries (first : Bool) : Nat → Grammar (List (Node × Node))
  | 0 => failure
  | fuel + 1 => do
    if ← take .flowMappingEnd then return []
    comma first
    if ← take .flowMappingEnd then return []
    if ← take .key then
      let key ← nodeUnless false false [.value, .flowEntry, .flowMappingEnd] fuel
      let value ←
        if ← take .value then nodeUnless false false [.flowEntry, .flowMappingEnd] fuel
        else pure emptyNode
      return (key, value) :: (← flowEntries false fuel)
    else
      let key ← node false false fuel
      return (key, emptyNode) :: (← flowEntries false fuel)

end

/-! ### Documents -/

def isKnownVersion (major minor : Nat) : Bool :=
  major == 1 && (minor == 1 || minor == 2)

def directives (versioned : Bool) : Nat → Grammar Bool
  | 0 => failure
  | fuel + 1 => do
    match ← peek with
    | some (.versionDirective major minor) =>
      guard (!versioned && isKnownVersion major minor)
      skip
      let _ ← directives true fuel
      return true
    | some (.tagDirective handle replacement) =>
      let r ← get
      guard (r.handles.lookup handle).isNone
      set { r with handles := r.handles ++ [(handle, replacement)] }
      skip
      let _ ← directives versioned fuel
      return true
    | _ => return false

def documentEnds : Nat → Grammar Unit
  | 0 => pure ()
  | fuel + 1 => do
    if ← take .documentEnd then documentEnds fuel

def document (fuel : Nat) : Grammar (Option Node) := do
  if (← peek).isNone then return none
  let directed ← directives false fuel
  let root ←
    if ← take .documentStart then
      if (← peek).isNone then pure emptyNode
      else nodeUnless true false [.documentStart, .documentEnd] fuel
    else do
      guard !directed
      node true false fuel
  documentEnds fuel
  guard (← peek).isNone
  return some root

end Grammar

/-- Each token is looked at by at most so many readers in a row. -/
def readersPerToken : Nat := 4

def Node.ofTokens? (tokens : List Token) : Option (Option Node) :=
  ((Grammar.document (readersPerToken * (tokens.length + 2))).run { tokens }).map (·.1)

end HomeHub.Yaml
