import Behavior.Text.Quoted

namespace Behavior.Text

/-- A layout knows its text on one line and its text on several lines at a depth. -/
structure Layout where
  flat : String
  tall : Nat → String

namespace Layout

def atom (text : String) : Layout := ⟨text, fun _ => text⟩

def quoted (text : String) : Layout := atom (quote text)

/-- Each level is indented by four spaces. -/
def indentation (depth : Nat) : String := String.ofList (List.replicate (4 * depth) ' ')

/-- The items of a tall layout stand on their own lines and end in a comma. -/
def items (opening closing : String) (texts : List (Nat → String)) (depth : Nat) : String :=
  opening ++ "\n" ++
    String.join (texts.map fun text => indentation (depth + 1) ++ text (depth + 1) ++ ",\n") ++
    indentation depth ++ closing

def list (layouts : List Layout) : Layout :=
  if layouts.isEmpty then atom "[]"
  else ⟨"[" ++ ", ".intercalate (layouts.map Layout.flat) ++ "]",
    items "[" "]" (layouts.map Layout.tall)⟩

/-- A wrapped value stands in parentheses behind a name. -/
def wrap (name : String) (layout : Layout) : Layout :=
  ⟨name ++ "(" ++ layout.flat ++ ")", items (name ++ "(") ")" [layout.tall]⟩

def option : Option Layout → Layout
  | some layout => wrap "Some" layout
  | none => atom "None"

/-- A record lists its named fields in braces. -/
def record (name : String) (fields : List (String × Layout)) : Layout :=
  ⟨name ++ " \x7b " ++ ", ".intercalate (fields.map fun field => field.1 ++ ": " ++ field.2.flat) ++
      " \x7d",
    items (name ++ " \x7b") "\x7d"
      (fields.map fun field depth => field.1 ++ ": " ++ field.2.tall depth)⟩

end Layout

end Behavior.Text
