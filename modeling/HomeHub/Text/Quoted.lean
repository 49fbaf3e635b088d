import HomeHub.Text.Digits
import HomeHub.Text.Printable

/-!
Texts quoted for a reader of error messages: what cannot be shown is written as an escape.
-/

namespace HomeHub.Text

def escape (c : Char) : String :=
  match c with
  | '\x00' => "\\0"
  | '\t' => "\\t"
  | '\n' => "\\n"
  | '\r' => "\\r"
  | '"' => "\\\""
  | '\\' => "\\\\"
  | c => if isPrintable c then c.toString else "\\u\x7b" ++ hex c.toNat ++ "\x7d"

def quoted (s : String) : String :=
  "\"" ++ String.join (s.toList.map escape) ++ "\""

end HomeHub.Text
