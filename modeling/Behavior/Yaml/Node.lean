namespace Behavior.Yaml

/-- Only the plain style leaves the type of a scalar to its text. -/
inductive Style where
  | plain
  | quoted
  deriving DecidableEq, Repr

/-- A tag states the type of a scalar. Its handle is the part up to the last exclamation mark. -/
structure TypeTag where
  handle : String
  suffix : String
  deriving DecidableEq, Repr

/-- A reference stands for an anchored node; one within its own target has none. -/
inductive Node where
  | scalar (style : Style) (tag : Option TypeTag) (text : String)
  | sequence (items : List Node)
  | mapping (entries : List (Node × Node))
  | reference (target : Option Node)

namespace Node

def plain (text : String) : Node := .scalar .plain none text

def null : Node := plain "~"

end Node

end Behavior.Yaml
