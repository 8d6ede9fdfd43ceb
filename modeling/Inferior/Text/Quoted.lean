import Inferior.Text.Hexadecimal
import Inferior.Text.Unreadable

/-! Text in quotes, with escapes for the characters that would not be readable. -/

set_option autoImplicit false

namespace Inferior.Text

/-- One character of a quoted text. An unreadable one is written as its number in hexadecimal. -/
def escape (char : Char) : String :=
  match char with
  | '"' => "\\\""
  | '\\' => "\\\\"
  | '\n' => "\\n"
  | '\r' => "\\r"
  | '\t' => "\\t"
  | '\x00' => "\\0"
  | char =>
    if isUnreadable char then "\\u\x7b" ++ Hexadecimal.digits char.toNat ++ "\x7d"
    else char.toString

def quoted (text : String) : String :=
  "\"" ++ String.join (text.toList.map escape) ++ "\""

end Inferior.Text
