import HomeHub.Yaml.Cursor

/-!
Gaps inside scalars. A line break between two lines of text counts as a blank, and of several line
breaks the first is left out.
-/

namespace HomeHub.Yaml

def folded (first others : List Char) : List Char :=
  if first = ['\n'] then if others.isEmpty then [' '] else others
  else first ++ others

structure Gap where
  blanks : List Char := []
  first : List Char := []
  others : List Char := []
  broken : Bool := false

namespace Gap

def text (gap : Gap) : List Char :=
  if gap.broken then folded gap.first gap.others else gap.blanks

def read? (indent : Nat) : Nat → Gap → Cursor → Option (Gap × Cursor)
  | 0, gap, cursor => some (gap, cursor)
  | fuel + 1, gap, cursor =>
    match cursor.rest with
    | [] => some (gap, cursor)
    | c :: _ =>
      if isBlank c then
        if gap.broken then
          if c == '\t' && cursor.column < indent then none else read? indent fuel gap cursor.skip
        else read? indent fuel { gap with blanks := gap.blanks ++ [c] } cursor.skip
      else if isBreak c then
        let (text, cursor) := cursor.takeBreak
        if gap.broken then read? indent fuel { gap with others := gap.others ++ text } cursor
        else read? indent fuel { gap with blanks := [], first := text, broken := true } cursor
      else some (gap, cursor)

end Gap

end HomeHub.Yaml
