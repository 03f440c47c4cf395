import Behavior.Decimal.Numeral
import Behavior.Yaml.Node

namespace Behavior.Yaml

/-- A value is what an untyped scalar denotes. An integer beyond 64 bits fits no numeric type. -/
inductive Value where
  | null
  | boolean (value : Bool)
  | integer (value : Int)
  | huge
  | number (value : Float)
  | text (value : String)

namespace Value

/-- The least integer of 64 bits, without its sign. -/
def wordHalf : Int := 0x8000000000000000

/-- An integer fits 64 bits with or without a sign. -/
def isWord (value : Int) : Bool := -wordHalf ≤ value && value < 2 * wordHalf

/-- An integer fits 128 bits with or without a sign. -/
def isDoubleWord (value : Int) : Bool :=
  -(2 * wordHalf * wordHalf) ≤ value && value < 4 * wordHalf * wordHalf

def digitValue? (radix : Nat) (digit : Char) : Option Nat :=
  let value :=
    if digit.isDigit then digit.toNat - '0'.toNat
    else if 'a' ≤ digit && digit ≤ 'f' then digit.toNat - 'a'.toNat + 10
    else if 'A' ≤ digit && digit ≤ 'F' then digit.toNat - 'A'.toNat + 10
    else radix
  if value < radix then some value else none

def radixNatural? (radix : Nat) (digits : List Char) : Option Nat :=
  if digits.isEmpty then none
  else digits.foldlM (fun value digit => (digitValue? radix digit).map (radix * value + ·)) 0

/-- A radix mark is a zero and a letter. -/
def radixMark? : List Char → Option (Nat × List Char)
  | '0' :: 'x' :: rest => some (16, rest)
  | '0' :: 'o' :: rest => some (8, rest)
  | '0' :: 'b' :: rest => some (2, rest)
  | _ => none

/-- A marked integer has its sign in front of the mark. A second plus may follow the mark of
a number that is not negative. -/
def marked? (text : List Char) : Option Int := do
  let (negative, unsigned) := Decimal.splitSign text
  let (radix, digits) ← radixMark? unsigned
  let value : Int ←
    if negative then (radixNatural? radix digits).map fun value => -(value : Int)
    else
      match digits with
      | '+' :: rest => (radixNatural? radix rest).map Int.ofNat
      | _ => (radixNatural? radix digits).map Int.ofNat
  if isWord value then some value else none

/-- Digits behind a leading zero are a text and no number. -/
def isPadded (text : List Char) : Bool :=
  match (Decimal.splitSign text).2 with
  | '0' :: second :: rest => (second :: rest).all Char.isDigit
  | _ => false

def infinity : Float := 1 / 0

/-- The special numbers have a point in front of their name. -/
def special? (text : String) : Option Float :=
  if [".inf", ".Inf", ".INF"].contains (String.ofList (text.toList.dropWhile (· == '+'))) then
    some infinity
  else if ["-.inf", "-.Inf", "-.INF"].contains text then some (-infinity)
  else if [".nan", ".NaN", ".NAN"].contains text then some (0 / 0)
  else none

/-- A number that is written in digits is finite. -/
def finite? (text : List Char) : Option Float := do
  let value := (← Decimal.Numeral.parse? text).toFloat
  if value.isFinite then some value else none

/-- The first reading that fits an untyped text decides. -/
def ofUntyped (text : String) : Value :=
  let characters := text.toList
  if text = "~" || text = "null" then null
  else if text = "true" then boolean true
  else if text = "false" then boolean false
  else
    match marked? characters with
    | some value => integer value
    | none =>
        if isPadded characters then .text text
        else
          match Decimal.integer? characters with
          | some value =>
              if isWord value then integer value
              else if isDoubleWord value then huge
              else ofNumber characters text
          | none => ofNumber characters text
where
  ofNumber (characters : List Char) (text : String) : Value :=
    match special? text with
    | some value => number value
    | none =>
        match finite? characters with
        | some value => number value
        | none => .text text

/-- A core type is stated by a tag with two exclamation marks; the text has to fit it. -/
def ofTyped (type text : String) : Option Value :=
  if type = "bool" then
    if text = "true" then some (boolean true)
    else if text = "false" then some (boolean false)
    else none
  else if type = "int" then
    match Decimal.integer? text.toList with
    | some value => if -wordHalf ≤ value ∧ value < wordHalf then some (integer value) else none
    | none => none
  else if type = "float" then
    match Decimal.Numeral.parse? text.toList with
    | some numeral => some (number numeral.toFloat)
    | none => named text
  else if type = "null" then
    if text = "~" || text = "null" then some null else none
  else some (.text text)
where
  named (text : String) : Option Value :=
    if Decimal.isNumeric text then
      let (negative, unsigned) := Decimal.splitSign text.toList
      if unsigned.map Char.toLower = "nan".toList then some (number (0 / 0))
      else some (number (if negative then -infinity else infinity))
    else none

/-- A tag decides before the style does, and a quoted scalar without a tag is a text. -/
def ofScalar (style : Style) (tag : Option TypeTag) (text : String) : Option Value :=
  match tag, style with
  | some tag, _ => if tag.handle = "!!" then ofTyped tag.suffix text else some (.text text)
  | none, .plain => some (ofUntyped text)
  | none, .quoted => some (.text text)

end Value

/-- Characters that a plain scalar cannot start with. -/
def isIndicator (character : Char) : Bool :=
  "&*?|-<>=!%@".toList.contains character

/-- Characters that a plain scalar cannot hold. -/
def isReserved (character : Char) : Bool :=
  ":\x7b\x7d[],#\x60\"\x27\\\t\n\r".toList.contains character ||
    character.toNat ≤ 0x06 || (0x0e ≤ character.toNat && character.toNat ≤ 0x1a) ||
    (0x1c ≤ character.toNat && character.toNat ≤ 0x1f)

/-- Words that readers take for a truth value or for null. -/
def words : List String :=
  ["yes", "Yes", "YES", "no", "No", "NO", "true", "True", "TRUE", "false", "False", "FALSE",
    "on", "On", "ON", "off", "Off", "OFF", "null", "Null", "NULL", "~"]

/-- A text is quoted where a plain scalar would read as something else. -/
def needsQuotes (text : String) : Bool :=
  match text.toList with
  | [] => true
  | first :: rest =>
      first == ' ' || (first :: rest).getLast? == some ' ' || isIndicator first || first == '.' ||
        (first :: rest).any isReserved || words.contains text ||
        (first == '0' && rest.head? == some 'x') ||
        Decimal.isNumeric text

/-- A text is a plain scalar if it can be one. -/
def Node.ofText (text : String) : Node :=
  .scalar (if needsQuotes text then .quoted else .plain) none text

end Behavior.Yaml
