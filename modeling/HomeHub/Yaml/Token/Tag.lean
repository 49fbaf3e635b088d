import HomeHub.Text.Digits
import HomeHub.Yaml.Cursor
import HomeHub.Yaml.Token

/-!
Tags, anchors and directives.
-/

namespace HomeHub.Yaml

/-! ### Tags -/

namespace Tag

def isTagChar (enclosed : Bool) (c : Char) : Bool :=
  isNameChar c || ";/?:@&=+$.!~*'()".toList.contains c || (enclosed && ",[]".toList.contains c)

def byte? (cursor : Cursor) : Option (Nat × Cursor) :=
  match cursor.rest with
  | '%' :: high :: low :: _ => (Text.ofDigits? 16 [high, low]).map (·, cursor.skipMany 3)
  | _ => none

def leadingByte? (n : Nat) : Option (Nat × Nat) :=
  if n < 0x80 then some (0, n)
  else if 0xc0 ≤ n ∧ n < 0xe0 then some (1, n % 0x20)
  else if 0xe0 ≤ n ∧ n < 0xf0 then some (2, n % 0x10)
  else if 0xf0 ≤ n ∧ n < 0xf8 then some (3, n % 0x08)
  else none

def decoded? (further bits : Nat) : Option Char :=
  let least := [0, 0x80, 0x800, 0x10000].getD further 0
  let c := Char.ofNat bits
  if least ≤ bits ∧ c.toNat = bits then some c else none

def furtherBytes? : Nat → Nat → Cursor → Option (Nat × Cursor)
  | 0, bits, cursor => some (bits, cursor)
  | count + 1, bits, cursor => do
    let (n, cursor) ← byte? cursor
    guard (0x80 ≤ n && n < 0xc0)
    furtherBytes? count (bits * 0x40 + n % 0x40) cursor

def escaped? (cursor : Cursor) : Option (Option Char × Cursor) := do
  let (n, cursor) ← byte? cursor
  let (further, bits) ← leadingByte? n
  let (bits, cursor) ← furtherBytes? further bits cursor
  return (decoded? further bits, cursor)

def chars? (enclosed : Bool) : Nat → Spelling → Cursor → Option (Spelling × Cursor)
  | 0, written, cursor => some (written, cursor)
  | fuel + 1, written, cursor =>
    match cursor.rest with
    | [] => some (written, cursor)
    | c :: _ =>
      if c == '%' then
        match escaped? cursor with
        | some (c, cursor) => chars? enclosed fuel (c :: written) cursor
        | none => none
      else if isTagChar enclosed c then chars? enclosed fuel (some c :: written) cursor.skip
      else some (written, cursor)

def spelling? (enclosed : Bool) (cursor : Cursor) : Option (Spelling × Cursor) :=
  (chars? enclosed (cursor.rest.length + 1) [] cursor).map fun (written, cursor) =>
    (written.reverse, cursor)

def handle? (cursor : Cursor) : Option (List Char × Cursor) :=
  if cursor.isAt '!' then
    let (name, cursor) := cursor.skip.takeWhile isNameChar
    if cursor.isAt '!' then some ('!' :: name ++ ['!'], cursor.skip) else some ('!' :: name, cursor)
  else none

def isHandle (text : List Char) : Bool :=
  1 < text.length && text.getLast? == some '!'

def parts? (cursor : Cursor) : Option (List Char × Spelling × Cursor) := do
  if cursor.sees 1 (· == '<') then
    let (suffix, cursor) ← spelling? true (cursor.skipMany 2)
    guard (!suffix.isEmpty && cursor.isAt '>')
    return ([], suffix.counted, cursor.skip)
  else
    let (handle, cursor) ← handle? cursor
    let (suffix, cursor) ← spelling? false cursor
    if isHandle handle then
      guard !suffix.isEmpty
      return (handle, suffix.counted, cursor)
    else
      let suffix := Spelling.counted (handle.tail.map some ++ suffix)
      return if suffix.isEmpty then ([], [some '!'], cursor) else (['!'], suffix, cursor)

def read? (inFlow : Bool) (cursor : Cursor) : Option (Token × Cursor) := do
  let (handle, suffix, cursor) ← parts? cursor
  guard (cursor.clearAt 0 || (inFlow && cursor.isAt ','))
  return (.tag (String.ofList handle) suffix, cursor)

end Tag

/-! ### Anchors and aliases -/

def anchorName? (cursor : Cursor) : Option (String × Cursor) := do
  let (name, cursor) := cursor.skip.takeWhile isNameChar
  guard (!name.isEmpty)
  guard (cursor.clearAt 0 || cursor.sees 0 "?:,]\x7d%@\x60".toList.contains)
  return (String.ofList name, cursor)

/-! ### Directives -/

namespace Directive

def longestNumber : Nat := 9

def number? (cursor : Cursor) : Option (Nat × Cursor) := do
  let (digits, cursor) := cursor.takeWhile Char.isDigit
  guard (!digits.isEmpty && digits.length ≤ longestNumber)
  return (Text.ofDigits digits, cursor)

def version? (cursor : Cursor) : Option (Token × Cursor) := do
  let (major, cursor) ← number? (cursor.skipWhile isBlank)
  guard (cursor.isAt '.')
  let (minor, cursor) ← number? cursor.skip
  return (.versionDirective major minor, cursor)

def tag? (cursor : Cursor) : Option (Token × Cursor) := do
  let (handle, cursor) ← Tag.handle? (cursor.skipWhile isBlank)
  guard (handle == ['!'] || Tag.isHandle handle)
  guard (cursor.sees 0 isBlank)
  let (replacement, cursor) ← Tag.spelling? true (cursor.skipWhile isBlank)
  guard (!replacement.isEmpty && cursor.clearAt 0)
  return (.tagDirective (String.ofList handle) replacement.counted, cursor)

def read? (cursor : Cursor) : Option (Token × Cursor) := do
  let (name, cursor) := cursor.skip.takeWhile isNameChar
  guard (!name.isEmpty && cursor.clearAt 0)
  let (token, cursor) ←
    if name = "YAML".toList then version? cursor
    else if name = "TAG".toList then tag? cursor
    else none
  return (token, ← cursor.finishLine?)

end Directive

end HomeHub.Yaml
