import HomeHub.Yaml.Token.Gap

/-!
Block scalars: indented lines, taken literally or folded.
-/

namespace HomeHub.Yaml.Block

inductive Chomping where
  | strip
  | clip
  | keep
  deriving DecidableEq

def chomping? (cursor : Cursor) : Option Chomping :=
  if cursor.isAt '+' then some .keep else if cursor.isAt '-' then some .strip else none

def increment? (cursor : Cursor) : Option (Option Nat) :=
  match cursor.rest with
  | c :: _ =>
    if !c.isDigit then some none
    else if c = '0' then none
    else some (some (c.toNat - '0'.toNat))
  | [] => some none

def header? (cursor : Cursor) : Option (Chomping × Option Nat × Cursor) := do
  let after (cursor : Cursor) (isThere : Bool) := if isThere then cursor.skip else cursor
  match chomping? cursor with
  | some chomping => do
    let cursor := cursor.skip
    let increment ← increment? cursor
    return (chomping, increment, after cursor increment.isSome)
  | none => do
    let increment ← increment? cursor
    let cursor := after cursor increment.isSome
    if increment.isSome then
      let chomping := chomping? cursor
      return (chomping.getD .clip, increment, after cursor chomping.isSome)
    else return (.clip, none, cursor)

structure Breaks where
  text : List Char := []
  furthest : Nat := 0

def breaks? (indent : Option Nat) : Nat → Breaks → Cursor → Option (Breaks × Cursor)
  | 0, breaks, cursor => some (breaks, cursor)
  | fuel + 1, breaks, cursor =>
    let spaces := (cursor.rest.takeWhile (· == ' ')).length
    let cursor := cursor.skipMany ((indent.map fun n => min spaces (n - cursor.column)).getD spaces)
    -- A tab in place of a space is refused.
    let isShort := indent.all (cursor.column < ·)
    if isShort && cursor.isAt '\t' then none
    else
      let furthest := max breaks.furthest cursor.column
      if cursor.sees 0 isBreak then
        let (text, cursor) := cursor.takeBreak
        breaks? indent fuel ⟨breaks.text ++ text, furthest⟩ cursor
      else some ({ breaks with furthest }, cursor)

structure Lines where
  written : List Char := []
  last : List Char := []
  blank : Bool := false

def Lines.join (lines : Lines) (literal nextBlank : Bool) (empty : List Char) : List Char :=
  if !literal && lines.last == ['\n'] && !lines.blank && !nextBlank then
    if empty.isEmpty then [' '] else empty
  else lines.last ++ empty

def lines? (literal : Bool) (indent : Nat) :
    Nat → Lines → List Char → Cursor → Option (Lines × List Char × Cursor)
  | 0, lines, empty, cursor => some (lines, empty, cursor)
  | fuel + 1, lines, empty, cursor =>
    if cursor.column = indent ∧ !cursor.atEnd then do
      let blank := cursor.sees 0 isBlank
      let joint := lines.join literal blank empty
      let (text, cursor) := cursor.takeWhile (!isBreak ·)
      let (last, cursor) := cursor.takeBreak
      let written := text.reverse ++ (joint.reverse ++ lines.written)
      let (breaks, cursor) ← breaks? (some indent) (cursor.rest.length + 1) {} cursor
      lines? literal indent fuel ⟨written, last, blank⟩ breaks.text cursor
    else some (lines, empty, cursor)

def read? (literal : Bool) (parent : Int) (cursor : Cursor) : Option (String × Cursor) := do
  let (chomping, increment, cursor) ← header? cursor.skip
  let cursor ← cursor.finishLine?
  let given := increment.map fun n => (if 0 ≤ parent then parent.toNat else 0) + n
  let (breaks, cursor) ← breaks? given (cursor.rest.length + 1) {} cursor
  let indent := given.getD (max (max breaks.furthest (parent + 1).toNat) 1)
  let (lines, empty, cursor) ← lines? literal indent (cursor.rest.length + 1) {} breaks.text cursor
  let tail := match chomping with
    | .strip => []
    | .clip => lines.last
    | .keep => lines.last ++ empty
  return (String.ofList (lines.written.reverse ++ tail), cursor)

end HomeHub.Yaml.Block
