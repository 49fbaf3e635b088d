import HomeHub.Yaml.Token.Gap

/-!
Plain scalars: texts without quotes, up to what only a token can be.
-/

namespace HomeHub.Yaml.Plain

def isFlowMark (c : Char) : Bool :=
  c == ',' || c == '[' || c == ']' || c == '\x7b' || c == '\x7d'

def endsWord (inFlow : Bool) (cursor : Cursor) : Bool :=
  cursor.clearAt 0 || (cursor.isAt ':' && cursor.clearAt 1) || (inFlow && cursor.sees 0 isFlowMark)

def isStrayColon (inFlow : Bool) (cursor : Cursor) : Bool :=
  inFlow && cursor.isAt ':' && cursor.sees 1 fun c => isFlowMark c || c == '?'

def word? (inFlow : Bool) : Nat → List Char → Cursor → Option (List Char × Cursor)
  | 0, written, cursor => some (written, cursor)
  | fuel + 1, written, cursor =>
    match cursor.rest with
    | [] => some (written, cursor)
    | c :: _ =>
      if cursor.clearAt 0 then some (written, cursor)
      else if isStrayColon inFlow cursor then none
      else if endsWord inFlow cursor then some (written, cursor)
      else word? inFlow fuel (c :: written) cursor.skip

def words? (inFlow : Bool) (indent : Nat) :
    Nat → List Char → Gap → Cursor → Option (List Char × Gap × Cursor)
  | 0, written, gap, cursor => some (written, gap, cursor)
  | fuel + 1, written, gap, cursor =>
    if cursor.atDocumentMark || cursor.isAt '#' then some (written, gap, cursor)
    else do
      let started := gap.text.reverse ++ written
      let (longer, after) ← word? inFlow (cursor.rest.length + 1) started cursor
      let isEmpty := after.index == cursor.index
      let (written, gap) := if isEmpty then (written, gap) else (longer, {})
      if after.atEnd || !after.clearAt 0 then some (written, gap, after)
      else
        let (gap, next) ← gap.read? indent (after.rest.length + 1) after
        -- A line with too little indentation belongs to a block further out.
        if !inFlow && next.column < indent then some (written, gap, next)
        else words? inFlow indent fuel written gap next

def read? (inFlow : Bool) (indent : Nat) (cursor : Cursor) : Option (String × Bool × Cursor) := do
  let (written, gap, cursor) ← words? inFlow indent (cursor.rest.length + 1) [] {} cursor
  return (String.ofList written.reverse, gap.broken, cursor)

end HomeHub.Yaml.Plain
