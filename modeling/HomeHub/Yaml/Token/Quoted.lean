import HomeHub.Text.Digits
import HomeHub.Yaml.Token.Gap

/-!
Scalars in quotes. Single quotes are doubled inside single quotes; inside double quotes there are
escapes, also for line breaks.
-/

namespace HomeHub.Yaml.Quoted

def escaped? : Char → Option Char
  | '0' => some '\x00'
  | 'a' => some '\x07'
  | 'b' => some '\x08'
  | 't' => some '\t'
  | '\t' => some '\t'
  | 'n' => some '\n'
  | 'v' => some '\x0b'
  | 'f' => some '\x0c'
  | 'r' => some '\r'
  | 'e' => some '\x1b'
  | ' ' => some ' '
  | '"' => some '"'
  | '/' => some '/'
  | '\\' => some '\\'
  | 'N' => some '\u0085'
  | '_' => some '\u00a0'
  | 'L' => some '\u2028'
  | 'P' => some '\u2029'
  | _ => none

def codeLength? : Char → Option Nat
  | 'x' => some 2
  | 'u' => some 4
  | 'U' => some 8
  | _ => none

def char? (n : Nat) : Option Char :=
  if n < 0xd800 ∨ (0xdfff < n ∧ n ≤ 0x10ffff) then some (Char.ofNat n) else none

def escape? (cursor : Cursor) : Option (Char × Cursor) :=
  match cursor.rest with
  | _ :: letter :: rest =>
    match codeLength? letter with
    | none => (escaped? letter).map (·, cursor.skipMany 2)
    | some length => do
      let digits := rest.take length
      guard (digits.length == length)
      let c ← char? (← Text.ofDigits? 16 digits)
      return (c, cursor.skipMany (2 + length))
  | _ => none

inductive WordEnd where
  | quote
  | gap
  | escapedBreak

def word? (single : Bool) : Nat → List Char → Cursor → Option (List Char × WordEnd × Cursor)
  | 0, _, _ => none
  | fuel + 1, written, cursor =>
    match cursor.rest with
    | [] => some (written, .gap, cursor)
    | c :: rest =>
      if cursor.clearAt 0 then some (written, .gap, cursor)
      else if single && c == '\'' then
        if rest.head? == some '\'' then word? single fuel ('\'' :: written) (cursor.skipMany 2)
        else some (written, .quote, cursor)
      else if !single && c == '"' then some (written, .quote, cursor)
      else if !single && c == '\\' then
        if cursor.sees 1 isBreak then some (written, .escapedBreak, cursor.skip.takeBreak.2)
        else
          match escape? cursor with
          | some (c, cursor) => word? single fuel (c :: written) cursor
          | none => none
      else word? single fuel (c :: written) cursor.skip

def words? (single : Bool) : Nat → List Char → Cursor → Option (List Char × Cursor)
  | 0, _, _ => none
  | fuel + 1, written, cursor =>
    if cursor.atDocumentMark || cursor.atEnd then none
    else do
      let (written, wordEnd, cursor) ← word? single (cursor.rest.length + 1) written cursor
      let readOn (gap : Gap) : Option (List Char × Cursor) := do
        let (gap, cursor) ← gap.read? 0 (cursor.rest.length + 1) cursor
        words? single fuel (gap.text.reverse ++ written) cursor
      match wordEnd with
      | .quote => return (written, cursor.skip)
      | .gap => readOn {}
      | .escapedBreak =>
        let closing := if single then '\'' else '"'
        if cursor.isAt closing then return (written, cursor.skip)
        else readOn { broken := true }

def read? (single : Bool) (cursor : Cursor) : Option (String × Cursor) := do
  let (written, cursor) ← words? single (cursor.rest.length + 1) [] cursor.skip
  return (String.ofList written.reverse, cursor)

end HomeHub.Yaml.Quoted
