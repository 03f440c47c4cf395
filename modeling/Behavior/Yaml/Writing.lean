import Behavior.Yaml.Scalar

namespace Behavior.Yaml

def hexDigits (width number : Nat) : List Char :=
  let digits := Nat.toDigits 16 number
  List.replicate (width - digits.length) '0' ++ digits

/-- Within quotes a control character follows a backslash. -/
def escape (character : Char) : List Char :=
  match character with
  | '"' => ['\\', '"']
  | '\\' => ['\\', '\\']
  | '\x08' => ['\\', 'b']
  | '\t' => ['\\', 't']
  | '\n' => ['\\', 'n']
  | '\x0c' => ['\\', 'f']
  | '\r' => ['\\', 'r']
  | other =>
      if other.toNat < 0x20 || other.toNat = 0x7f then '\\' :: 'u' :: hexDigits 4 other.toNat
      else [other]

def writeScalar (style : Style) (text : String) : String :=
  match style with
  | .plain => text
  | .quoted => "\"" ++ String.ofList (text.toList.flatMap escape) ++ "\""

def lineBreak (level : Nat) : String := "\n" ++ String.ofList (List.replicate (2 * level) ' ')

mutual

/-- The first line of a node stands where the node begins, and further lines are indented by
its level. Documents that are written hold neither tags nor references. -/
def Node.write (level : Nat) : Node → String
  | .scalar style _ text => writeScalar style text
  | .sequence items => if items.isEmpty then "[]" else writeItems level items
  | .mapping entries => if entries.isEmpty then "\x7b\x7d" else writeEntries level entries
  | .reference _ => ""

def writeItems (level : Nat) : List Node → String
  | [] => ""
  | [item] => "- " ++ item.write (level + 1)
  | item :: rest => "- " ++ item.write (level + 1) ++ lineBreak level ++ writeItems level rest

def writeEntries (level : Nat) : List (Node × Node) → String
  | [] => ""
  | [(key, value)] => key.write level ++ ":" ++ writeValue level value
  | (key, value) :: rest =>
      key.write level ++ ":" ++ writeValue level value ++ lineBreak level ++ writeEntries level rest

/-- A collection that is not empty stands on lines of its own under its key. -/
def writeValue (level : Nat) : Node → String
  | .scalar style _ text => " " ++ writeScalar style text
  | .sequence items =>
      if items.isEmpty then " []" else lineBreak (level + 1) ++ writeItems (level + 1) items
  | .mapping entries =>
      if entries.isEmpty then " \x7b\x7d"
      else lineBreak (level + 1) ++ writeEntries (level + 1) entries
  | .reference _ => " "

end

/-- A document starts with its mark and ends with a line break. -/
def write (node : Node) : String := "---\n" ++ node.write 0 ++ "\n"

end Behavior.Yaml
