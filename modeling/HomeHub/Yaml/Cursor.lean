/-!
Positions in a YAML text, and the classes of characters that its tokens are told apart by.
-/

namespace HomeHub.Yaml

def isAllowed (c : Char) : Bool :=
  let n := c.toNat
  n == 0x9 || n == 0xa || n == 0xd || (0x20 ≤ n && n ≤ 0x7e) || n == 0x85 ||
    (0xa0 ≤ n && n ≤ 0xfffd) || 0x10000 ≤ n

def byteOrderMark : Char := '\ufeff'

def isBlank (c : Char) : Bool :=
  c == ' ' || c == '\t'

def isBreak (c : Char) : Bool :=
  c == '\r' || c == '\n' || c == '\u0085' || c == '\u2028' || c == '\u2029'

def isNameChar (c : Char) : Bool :=
  c.isAlphanum || c == '_' || c == '-'

structure Cursor where
  rest : List Char
  index : Nat := 0
  line : Nat := 0
  column : Nat := 0

namespace Cursor

def sees (cursor : Cursor) (offset : Nat) (p : Char → Bool) : Bool :=
  (cursor.rest[offset]?).any p

def isAt (cursor : Cursor) (c : Char) : Bool :=
  cursor.sees 0 (· == c)

def atEnd (cursor : Cursor) : Bool :=
  cursor.rest.isEmpty

def clearAt (cursor : Cursor) (offset : Nat) : Bool :=
  match cursor.rest[offset]? with
  | none => true
  | some c => isBlank c || isBreak c

def atLineEnd (cursor : Cursor) : Bool :=
  match cursor.rest with
  | [] => true
  | c :: _ => isBreak c

def width (cursor : Cursor) : Nat :=
  (cursor.rest.head?.map Char.utf8Size).getD 0

def skip (cursor : Cursor) : Cursor :=
  { cursor with
    rest := cursor.rest.tail
    index := cursor.index + cursor.width
    column := cursor.column + 1 }

def skipMany (cursor : Cursor) : Nat → Cursor
  | 0 => cursor
  | n + 1 => cursor.skip.skipMany n

def skipWhile (cursor : Cursor) (p : Char → Bool) : Cursor :=
  cursor.skipMany (cursor.rest.takeWhile p).length

def takeWhile (cursor : Cursor) (p : Char → Bool) : List Char × Cursor :=
  let taken := cursor.rest.takeWhile p
  (taken, cursor.skipMany taken.length)

def takeBreak (cursor : Cursor) : List Char × Cursor :=
  let next (rest : List Char) (width : Nat) : Cursor :=
    { rest, index := cursor.index + width, line := cursor.line + 1, column := 0 }
  match cursor.rest with
  | '\r' :: '\n' :: rest => (['\n'], next rest 2)
  | '\r' :: rest => (['\n'], next rest cursor.width)
  | '\n' :: rest => (['\n'], next rest cursor.width)
  | '\u0085' :: rest => (['\n'], next rest cursor.width)
  | '\u2028' :: rest => (['\u2028'], next rest cursor.width)
  | '\u2029' :: rest => (['\u2029'], next rest cursor.width)
  | _ => ([], cursor)

def skipComment (cursor : Cursor) : Cursor :=
  if cursor.isAt '#' then cursor.skipWhile (!isBreak ·) else cursor

def finishLine? (cursor : Cursor) : Option Cursor :=
  let cursor := (cursor.skipWhile isBlank).skipComment
  if cursor.atLineEnd then some cursor.takeBreak.2 else none

def atMark (cursor : Cursor) (c : Char) : Bool :=
  cursor.column == 0 && [0, 1, 2].all (fun offset => cursor.sees offset (· == c)) &&
    cursor.clearAt 3

def atDocumentMark (cursor : Cursor) : Bool :=
  cursor.atMark '-' || cursor.atMark '.'

end Cursor

end HomeHub.Yaml
