import Behavior.Text.Invisible

namespace Behavior.Text

/-- A hexadecimal number has lower-case digits and no leading zero. -/
def hex (number : Nat) : String := String.ofList (Nat.toDigits 16 number)

/-- A character that is not shown as itself follows a backslash. -/
def quoteChar (character : Char) : String :=
  match character with
  | '"' => "\\\""
  | '\\' => "\\\\"
  | '\t' => "\\t"
  | '\n' => "\\n"
  | '\r' => "\\r"
  | '\x00' => "\\0"
  | other =>
      if isInvisible other then "\\u\x7b" ++ hex other.toNat ++ "\x7d" else other.toString

def quote (text : String) : String := "\"" ++ String.join (text.toList.map quoteChar) ++ "\""

end Behavior.Text
