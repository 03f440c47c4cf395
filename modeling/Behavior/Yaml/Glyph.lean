namespace Behavior.Yaml

/-- A glyph is a character with its line, its column and its index in the text. -/
structure Glyph where
  character : Char
  line : Nat
  column : Nat
  index : Nat

namespace Glyph

/-- The end of a text reads as the null character. -/
def finish : Char := '\x00'

/-- Only a line feed starts a new line. -/
def place (line column index : Nat) : List Char → List Glyph
  | [] => [⟨finish, line, column, index⟩]
  | character :: rest =>
      if character = finish then [⟨finish, line, column, index⟩]
      else
        ⟨character, line, column, index⟩ ::
          if character = '\n' then place (line + 1) 0 (index + 1) rest
          else place line (column + 1) (index + 1) rest

/-- A text ends at its first null character. -/
def ofText (text : String) : List Glyph := place 0 0 0 text.toList

/-- The glyph at the front of a text that is never used up. -/
def first (glyphs : List Glyph) : Glyph := glyphs.headD ⟨finish, 0, 0, 0⟩

def peek (glyphs : List Glyph) (distance : Nat) : Char := (first (glyphs.drop distance)).character

def texts (glyphs : List Glyph) : List Char := glyphs.map Glyph.character

end Glyph

def isFinish (character : Char) : Bool := character == Glyph.finish

def isBreak (character : Char) : Bool := character == '\n' || character == '\r'

def isBlank (character : Char) : Bool := character == ' ' || character == '\t'

/-- White space separates words, also across lines. -/
def isWhite (character : Char) : Bool := isBlank character || isBreak character

def isLineEnd (character : Char) : Bool := isBreak character || isFinish character

def isGap (character : Char) : Bool := isBlank character || isLineEnd character

def isFlowMark (character : Char) : Bool := ",[]\x7b\x7d".toList.contains character

/-- Names of anchors, handles and directives are written in these characters. -/
def isNameChar (character : Char) : Bool :=
  character.isAlphanum || character == '_' || character == '-'

namespace Glyph

def isIn (holds : Char → Bool) (glyph : Glyph) : Bool := holds glyph.character

def skipBlanks (glyphs : List Glyph) : List Glyph := glyphs.dropWhile (isIn isBlank)

/-- A comment reaches to the end of its line. -/
def skipComment (glyphs : List Glyph) : List Glyph :=
  if peek glyphs 0 = '#' then glyphs.dropWhile (isIn fun character => !isLineEnd character)
  else glyphs

/-- A carriage return and a line feed are one line break. -/
def skipBreak : List Glyph → List Glyph
  | first :: rest =>
      if first.character = '\r' && peek rest 0 = '\n' then rest.drop 1
      else if isBreak first.character then rest
      else first :: rest
  | [] => []

def countBreaks : List Glyph → Nat
  | [] => 0
  | first :: rest =>
      if first.character = '\r' && peek rest 0 = '\n' then countBreaks rest
      else if isBreak first.character then countBreaks rest + 1
      else countBreaks rest

/-- A document mark stands at the start of a line and is followed by a gap. -/
def atMark (glyphs : List Glyph) (mark : Char) : Bool :=
  (first glyphs).column == 0 && peek glyphs 0 == mark && peek glyphs 1 == mark &&
    peek glyphs 2 == mark && isGap (peek glyphs 3)

def atDocumentMark (glyphs : List Glyph) : Bool := atMark glyphs '-' || atMark glyphs '.'

end Glyph

/-- One line break within a scalar folds to a space, and each further one stays. -/
def fold (breaks : Nat) : List Char :=
  if breaks = 1 then [' '] else List.replicate (breaks - 1) '\n'

end Behavior.Yaml
