import Behavior.Yaml.Glyph
import Behavior.Yaml.Scalar

namespace Behavior.Yaml.Lexeme

open Glyph

abbrev Text := List Glyph

/-- A plain scalar ends at a colon before a gap; within brackets it ends at their marks too. -/
def endsPlain (flow : Bool) (character next : Char) : Bool :=
  (character == ':' && (isGap next || (flow && isFlowMark next))) || (flow && isFlowMark character)

def plainWord (flow : Bool) : Text → List Char × Text
  | [] => ([], [])
  | glyph :: rest =>
      if isGap glyph.character || endsPlain flow glyph.character (peek rest 0) then
        ([], glyph :: rest)
      else
        let (word, after) := plainWord flow rest
        (glyph.character :: word, after)

/-- White space keeps its blanks on one line and folds across lines. -/
def separator (white : Text) : List Char :=
  if countBreaks white = 0 then texts white else fold (countBreaks white)

/-- Tabs must not indent the lines of a plain scalar. -/
def hasMisplacedTab (indentation : Int) (white : Text) : Bool :=
  (white.dropWhile (isIn isBlank)).any fun glyph =>
    glyph.character == '\t' && glyph.column < indentation

/-- The flag tells whether a line break stands directly before the remaining text. -/
structure Plain where
  text : List Char
  broken : Bool
  rest : Text

/-- Words of a plain scalar follow each other as long as their lines are indented. The
separator is pending until the next word. -/
def plainFrom (flow : Bool) (indentation : Int) :
    Text → List Char → Bool → Text → Option Plain
  | [], _, _, _ => none
  | _ :: bound, pending, broken, glyphs =>
      if atDocumentMark glyphs || peek glyphs 0 = '#' then some ⟨[], broken, glyphs⟩
      else
        let (word, rest) := plainWord flow glyphs
        let text := if word.isEmpty then [] else pending ++ word
        let white := rest.takeWhile (isIn isWhite)
        let after := rest.dropWhile (isIn isWhite)
        if white.isEmpty then some ⟨text, broken && word.isEmpty, rest⟩
        else if hasMisplacedTab indentation white then none
        else
          let broken := countBreaks white != 0
          if !flow && (first after).column < indentation then some ⟨text, broken, after⟩
          else do
            let more ← plainFrom flow indentation bound (separator white) broken after
            some { more with text := text ++ more.text }

def plain (flow : Bool) (indentation : Int) (glyphs : Text) : Option Plain :=
  plainFrom flow indentation glyphs [] false glyphs

def escapeOf? (letter : Char) : Option Char :=
  match letter with
  | '0' => some '\x00'
  | 'a' => some '\x07'
  | 'b' => some '\x08'
  | 't' => some '\t'
  | '\t' => some '\t'
  | 'n' => some '\n'
  | 'v' => some '\x0b'
  | 'f' => some '\x0c'
  | 'r' => some '\r'
  | 'e' => some '\x1b'
  | ' ' => some ' '
  | '"' => some '"'
  | '\x27' => some '\x27'
  | '\\' => some '\\'
  | 'N' => some '\x85'
  | '_' => some '\xa0'
  | 'L' => some '\u2028'
  | 'P' => some '\u2029'
  | _ => none

/-- A code point may be given by two, four or eight hexadecimal digits. -/
def codeWidth? (letter : Char) : Option Nat :=
  match letter with
  | 'x' => some 2
  | 'u' => some 4
  | 'U' => some 8
  | _ => none

def codePoint? (value : Nat) : Option Char :=
  if h : value.isValidChar then some (Char.ofNatAux value h) else none

/-- An escape follows a backslash. -/
def escaped (glyphs : Text) : Option (Char × Text) :=
  match escapeOf? (peek glyphs 0) with
  | some character => some (character, glyphs.drop 1)
  | none => do
      let width ← codeWidth? (peek glyphs 0)
      let value ← Value.radixNatural? 16 (texts ((glyphs.drop 1).take width))
      let character ← codePoint? value
      some (character, glyphs.drop (1 + width))

/-- The flag tells whether the word ended at an escaped line break. -/
structure Word where
  text : List Char
  continued : Bool
  rest : Text

/-- A quote ends the word. Between single quotes two of them stand for one. -/
def singleWord : Text → Word
  | [] => ⟨[], false, []⟩
  | glyph :: rest =>
      if isGap glyph.character then ⟨[], false, glyph :: rest⟩
      else if glyph.character = '\x27' then
        match rest with
        | next :: after =>
            if next.character = '\x27' then
              let word := singleWord after
              { word with text := '\x27' :: word.text }
            else ⟨[], false, glyph :: rest⟩
        | [] => ⟨[], false, glyph :: rest⟩
      else
        let word := singleWord rest
        { word with text := glyph.character :: word.text }

/-- Between double quotes a backslash escapes a character or a line break. -/
def doubleWord : Text → Text → Option Word
  | [], _ => none
  | _ :: bound, glyphs =>
      let character := peek glyphs 0
      if isGap character || character = '"' then some ⟨[], false, glyphs⟩
      else if character = '\\' then
        if isBreak (peek glyphs 1) then some ⟨[], true, skipBreak (glyphs.drop 1)⟩
        else do
          let (escaped, rest) ← escaped (glyphs.drop 1)
          let word ← doubleWord bound rest
          some { word with text := escaped :: word.text }
      else do
        let word ← doubleWord bound (glyphs.drop 1)
        some { word with text := character :: word.text }

/-- A quoted scalar goes on until its closing quote and holds no document mark. -/
def quotedFrom (quote : Char) : Text → Text → Option (List Char × Text)
  | [], _ => none
  | _ :: bound, glyphs =>
      if atDocumentMark glyphs || isFinish (peek glyphs 0) then none
      else do
        let word ←
          if quote = '"' then doubleWord glyphs glyphs else some (singleWord glyphs)
        if peek word.rest 0 = quote then some (word.text, word.rest.drop 1)
        else
          let white := word.rest.takeWhile (isIn isWhite)
          let gap :=
            if word.continued then List.replicate (countBreaks white) '\n' else separator white
          let (more, rest) ← quotedFrom quote bound (word.rest.dropWhile (isIn isWhite))
          some (word.text ++ gap ++ more, rest)

def quoted (quote : Char) (glyphs : Text) : Option (List Char × Text) :=
  quotedFrom quote glyphs (glyphs.drop 1)

/-- A chomp tells what remains of the line breaks at the end of a block scalar. -/
inductive Chomp where
  | strip
  | clip
  | keep
  deriving DecidableEq

def chomp? (character : Char) : Option Chomp :=
  if character = '+' then some .keep else if character = '-' then some .strip else none

/-- An indentation indicator is a digit above zero; the result zero means that there is none. -/
def increment (glyphs : Text) : Option (Nat × Text) :=
  let character := peek glyphs 0
  if character = '0' then none
  else if character.isDigit then some (character.toNat - '0'.toNat, glyphs.drop 1)
  else some (0, glyphs)

/-- The two indicators of a block scalar stand in either order. -/
def blockHeader (glyphs : Text) : Option (Chomp × Nat × Text) :=
  match chomp? (peek glyphs 0) with
  | some chomp => do
      let (increment, rest) ← increment (glyphs.drop 1)
      some (chomp, increment, rest)
  | none => do
      let (increment, rest) ← increment glyphs
      if increment = 0 then some (.clip, 0, rest)
      else
        match chomp? (peek rest 0) with
        | some chomp => some (chomp, increment, rest.drop 1)
        | none => some (.clip, increment, rest)

/-- Behind the header only a comment may stand on the line. -/
def lineRest (glyphs : Text) : Option Text :=
  let rest := skipComment (skipBlanks glyphs)
  if isLineEnd (peek rest 0) then some (skipBreak rest) else none

/-- The indentation is skipped; as long as it is unknown, all spaces are. -/
def skipIndentation (indentation : Nat) (glyphs : Text) : Text :=
  glyphs.dropWhile fun glyph =>
    (indentation == 0 || glyph.column < indentation) && glyph.character == ' '

/-- The breaks before a line of a block scalar, the widest indentation among them, and the rest. -/
def blockBreaks (indentation : Nat) : Text → Text → Option (Nat × Nat × Text)
  | [], _ => none
  | _ :: bound, glyphs =>
      let rest := skipIndentation indentation glyphs
      let column := (first rest).column
      if (indentation == 0 || column < indentation) && peek rest 0 = '\t' then none
      else if isBreak (peek rest 0) then do
        let (breaks, widest, rest) ← blockBreaks indentation bound (skipBreak rest)
        some (breaks + 1, max column widest, rest)
      else some (0, column, rest)

/-- What the lines before have left: a line break, further empty lines, and whether the last
line started with a blank. -/
structure Pending where
  lineBreak : Bool
  empty : Nat
  blank : Bool

/-- A folded line joins the previous one unless either starts with a blank. -/
def joint (literal : Bool) (pending : Pending) (blank : Bool) : List Char :=
  if !literal && pending.lineBreak && !pending.blank && !blank then fold (pending.empty + 1)
  else List.replicate ((if pending.lineBreak then 1 else 0) + pending.empty) '\n'

def tail (chomp : Chomp) (pending : Pending) : List Char :=
  match chomp with
  | .strip => []
  | .clip => if pending.lineBreak then ['\n'] else []
  | .keep => List.replicate ((if pending.lineBreak then 1 else 0) + pending.empty) '\n'

def blockLines (literal : Bool) (chomp : Chomp) (indentation : Nat) :
    Text → Pending → Text → Option (List Char × Text)
  | [], _, _ => none
  | _ :: bound, pending, glyphs =>
      if (first glyphs).column != indentation || isFinish (peek glyphs 0) then
        some (tail chomp pending, glyphs)
      else do
        let blank := isBlank (peek glyphs 0)
        let line := glyphs.takeWhile (isIn fun character => !isLineEnd character)
        let rest := glyphs.dropWhile (isIn fun character => !isLineEnd character)
        let text := joint literal pending blank ++ texts line
        if isFinish (peek rest 0) then some (text, rest)
        else do
          let (breaks, _, rest) ← blockBreaks indentation rest (skipBreak rest)
          let (more, rest) ← blockLines literal chomp indentation bound ⟨true, breaks, blank⟩ rest
          some (text ++ more, rest)

/-- A block scalar is indented more than its parent, by the indicator or as its first line. -/
def block (literal : Bool) (parent : Int) (glyphs : Text) : Option (List Char × Text) := do
  let (chomp, increment, rest) ← blockHeader (glyphs.drop 1)
  let rest ← lineRest rest
  let given := if increment = 0 then 0 else (max parent 0).toNat + increment
  let (breaks, widest, rest) ← blockBreaks given rest rest
  let indentation := if given = 0 then max (max widest (parent + 1).toNat) 1 else given
  blockLines literal chomp indentation rest ⟨false, breaks, false⟩ rest

/-- The name of an anchor or alias is not empty and ends at a gap or an indicator. -/
def anchorName (glyphs : Text) : Option (String × Text) :=
  let name := texts ((glyphs.drop 1).takeWhile (isIn isNameChar))
  let rest := (glyphs.drop 1).dropWhile (isIn isNameChar)
  if name.isEmpty then none
  else if isGap (peek rest 0) || "?:,]\x7d%@\x60".toList.contains (peek rest 0) then
    some (String.ofList name, rest)
  else none

/-- A handle starts with an exclamation mark and may end with another. -/
def handle (glyphs : Text) : Option (List Char × Text) :=
  if peek glyphs 0 != '!' then none
  else
    let name := texts ((glyphs.drop 1).takeWhile (isIn isNameChar))
    let rest := (glyphs.drop 1).dropWhile (isIn isNameChar)
    if peek rest 0 = '!' then some ('!' :: name ++ ['!'], rest.drop 1)
    else some ('!' :: name, rest)

def isUriChar (character : Char) : Bool :=
  isNameChar character || ";/?:@&=+$,.!~*\x27()[]".toList.contains character

/-- A percent sign and two hexadecimal digits stand for an octet. -/
def octet (glyphs : Text) : Option (Nat × Text) :=
  if peek glyphs 0 = '%' then do
    let value ← Value.radixNatural? 16 (texts ((glyphs.drop 1).take 2))
    some (value, glyphs.drop 3)
  else none

/-- Escaped octets of one character follow each other. -/
def octets : Nat → Nat → Text → Option (Nat × Text)
  | 0, code, glyphs => some (code, glyphs)
  | count + 1, code, glyphs => do
      let (value, rest) ← octet glyphs
      if value / 64 = 2 then octets count (code * 256 + value) rest else none

def uriEscape (glyphs : Text) : Option (Char × Text) := do
  let (lead, rest) ← octet glyphs
  let more ←
    if lead < 0x80 then some 0
    else if lead / 32 = 6 then some 1
    else if lead / 16 = 14 then some 2
    else if lead / 8 = 30 then some 3
    else none
  let (code, rest) ← octets more lead rest
  let character ← codePoint? code
  some (character, rest)

def uriFrom : Text → Text → Option (List Char × Text)
  | [], _ => none
  | _ :: bound, glyphs =>
      let character := peek glyphs 0
      if isUriChar character then do
        let (more, rest) ← uriFrom bound (glyphs.drop 1)
        some (character :: more, rest)
      else if character = '%' then do
        let (escaped, rest) ← uriEscape glyphs
        let (more, rest) ← uriFrom bound rest
        some (escaped :: more, rest)
      else some ([], glyphs)

def uri (glyphs : Text) : Option (List Char × Text) := uriFrom glyphs glyphs

/-- A tag is given in full between angle brackets, or by a handle and a suffix. -/
def tag (glyphs : Text) : Option (TypeTag × Text) := do
  let (tag, rest) ← content
  if isGap (peek rest 0) then some (tag, rest) else none
where
  content : Option (TypeTag × Text) :=
    if peek glyphs 1 = '<' then do
      let (suffix, rest) ← uri (glyphs.drop 2)
      if suffix.isEmpty || peek rest 0 != '>' then none
      else some (⟨"", String.ofList suffix⟩, rest.drop 1)
    else do
      let (name, rest) ← handle glyphs
      let (suffix, rest) ← uri rest
      if 2 ≤ name.length && name.getLast? == some '!' then
        if suffix.isEmpty then none else some (⟨String.ofList name, String.ofList suffix⟩, rest)
      else
        let whole := name.drop 1 ++ suffix
        if whole.isEmpty then some (⟨"", "!"⟩, rest) else some (⟨"!", String.ofList whole⟩, rest)

def versionNumber (glyphs : Text) : Option Text :=
  let digits := glyphs.takeWhile (isIn Char.isDigit)
  if digits.isEmpty || 9 < digits.length then none else some (glyphs.drop digits.length)

/-- A version has a major and a minor number. -/
def version (glyphs : Text) : Option Text := do
  let rest ← versionNumber (skipBlanks glyphs)
  if peek rest 0 = '.' then versionNumber (rest.drop 1) else none

/-- A handle is declared together with what it stands for. -/
def tagDeclaration (glyphs : Text) : Option Text := do
  let (name, rest) ← handle (skipBlanks glyphs)
  if name.length != 1 && name.getLast? != some '!' then none
  else
    let (text, rest) ← uri (skipBlanks rest)
    if text.isEmpty || !isGap (peek rest 0) then none else some rest

/-- A directive takes a line of its own. An unknown one is skipped. -/
def directive (glyphs : Text) : Option Text := do
  let name := texts ((glyphs.drop 1).takeWhile (isIn isNameChar))
  let rest := (glyphs.drop 1).dropWhile (isIn isNameChar)
  if name.isEmpty || !isGap (peek rest 0) then none
  else
    let rest ←
      if name = "YAML".toList then version rest
      else if name = "TAG".toList then tagDeclaration rest
      else some (rest.dropWhile (isIn fun character => !isLineEnd character))
    lineRest rest

end Behavior.Yaml.Lexeme
