import Behavior.Yaml.Lexeme

namespace Behavior.Yaml

inductive Token where
  | directive
  | documentStart
  | documentEnd
  | blockSequenceStart
  | blockMappingStart
  | blockEnd
  | flowSequenceStart
  | flowSequenceEnd
  | flowMappingStart
  | flowMappingEnd
  | blockEntry
  | flowEntry
  | key
  | value
  | reference (name : String)
  | anchor (name : String)
  | tag (tag : TypeTag)
  | scalar (style : Style) (text : String)
  | streamEnd
  deriving DecidableEq

/-- A key candidate turns out to be a key when a colon follows it on the same line. -/
structure KeyCandidate where
  position : Nat
  start : Glyph
  required : Bool

/-- Progress through a text: the tokens so far, the candidate of each bracket level, the
indentations of the open block collections, and where a colon may touch the next word. -/
structure Progress where
  rest : List Glyph
  tokens : Array Token
  keyAllowed : Bool
  candidate : Option KeyCandidate
  outer : List (Option KeyCandidate)
  indentations : List Int
  touching : Option Nat

namespace Progress

open Glyph

def ofText (text : String) : Progress :=
  ⟨Glyph.ofText text, #[], true, none, [], [-1], none⟩

def inFlow (progress : Progress) : Bool := !progress.outer.isEmpty

def indentation (progress : Progress) : Int := progress.indentations.headD (-1)

def push (progress : Progress) (token : Token) : Progress :=
  { progress with tokens := progress.tokens.push token }

def advance (progress : Progress) (count : Nat) : Progress :=
  { progress with rest := progress.rest.drop count }

def insert (progress : Progress) (position : Nat) (token : Token) : Progress :=
  { progress with tokens := progress.tokens.insertIdxIfInBounds position token }

/-- Outside of brackets a deeper column opens a block collection. -/
def roll (progress : Progress) (column : Nat) (position : Nat) (token : Token) : Progress :=
  if progress.inFlow || column ≤ progress.indentation then progress
  else { progress.insert position token with indentations := column :: progress.indentations }

/-- A column to the left closes the block collections that are indented more. -/
def unrollList (column : Int) : List Int → Nat × List Int
  | [] => (0, [])
  | indentation :: outer =>
      if column < indentation then
        let (closed, rest) := unrollList column outer
        (closed + 1, rest)
      else (0, indentation :: outer)

def unroll (progress : Progress) (column : Int) : Progress :=
  if progress.inFlow then progress
  else
    let (closed, indentations) := unrollList column progress.indentations
    { progress with indentations, tokens := progress.tokens ++ Array.replicate closed .blockEnd }

/-- A candidate that has to be a key cannot be given up. -/
def dropCandidate (progress : Progress) : Option Progress :=
  match progress.candidate with
  | some candidate => if candidate.required then none else some { progress with candidate := none }
  | none => some progress

/-- A node may turn out to be a key where keys are allowed. -/
def saveCandidate (progress : Progress) : Option Progress :=
  if progress.keyAllowed then do
    let progress ← progress.dropCandidate
    let start := first progress.rest
    let required := progress.inFlow && progress.indentation == start.column
    some { progress with candidate := some ⟨progress.tokens.size, start, required⟩ }
  else some progress

/-- A candidate goes stale at the end of its line and after 1024 characters. -/
def isStale (glyph : Glyph) (candidate : KeyCandidate) : Bool :=
  candidate.start.line < glyph.line || candidate.start.index + 1024 < glyph.index

def refresh (glyph : Glyph) : Option KeyCandidate → Option (Option KeyCandidate)
  | some candidate =>
      if isStale glyph candidate then (if candidate.required then none else some none)
      else some (some candidate)
  | none => some none

def refreshAll (progress : Progress) : Option Progress := do
  let glyph := first progress.rest
  let candidate ← refresh glyph progress.candidate
  let outer ← progress.outer.mapM (refresh glyph)
  some { progress with candidate, outer }

/-- Blanks, comments and line breaks lie between tokens. A new line allows a key outside of
brackets, and there a tab does not count as a blank where a key is allowed. -/
def skipGap : List Glyph → Progress → Progress
  | [], progress => progress
  | _ :: bound, progress =>
      let character := peek progress.rest 0
      if character = ' ' then skipGap bound (progress.advance 1)
      else if character = '\t' && (progress.inFlow || !progress.keyAllowed) then
        skipGap bound (progress.advance 1)
      else if isBreak character then
        skipGap bound
          { progress with
            rest := skipBreak progress.rest, keyAllowed := progress.keyAllowed || !progress.inFlow }
      else if character = '#' then
        skipGap bound { progress with rest := skipComment progress.rest }
      else progress

def finish (progress : Progress) : Option Progress := do
  let progress ← (progress.unroll (-1)).dropCandidate
  some (progress.push .streamEnd)

def fetchDirective (progress : Progress) : Option Progress := do
  let progress ← (progress.unroll (-1)).dropCandidate
  let rest ← Lexeme.directive progress.rest
  some { progress.push .directive with rest, keyAllowed := false }

def fetchDocumentMark (progress : Progress) (token : Token) : Option Progress := do
  let progress ← (progress.unroll (-1)).dropCandidate
  some { (progress.push token).advance 3 with keyAllowed := false }

/-- An opening bracket may start a key, and keys are allowed within. -/
def openFlow (progress : Progress) (token : Token) : Option Progress := do
  let progress ← progress.saveCandidate
  if progress.outer.length = 255 then none
  else
    some { (progress.push token).advance 1 with
      outer := progress.candidate :: progress.outer, candidate := none, keyAllowed := true }

def closeFlow (progress : Progress) (token : Token) : Option Progress := do
  let progress ← progress.dropCandidate
  let closed := match progress.outer with
    | candidate :: outer => { progress with candidate, outer }
    | [] => progress
  some { (closed.push token).advance 1 with keyAllowed := false }

def fetchFlowEntry (progress : Progress) : Option Progress := do
  let progress ← progress.dropCandidate
  some { (progress.push .flowEntry).advance 1 with keyAllowed := true }

/-- A dash starts an entry only outside of brackets. -/
def fetchBlockEntry (progress : Progress) : Option Progress :=
  if progress.inFlow || !progress.keyAllowed then none
  else do
    let column := (first progress.rest).column
    let progress ← (progress.roll column progress.tokens.size .blockSequenceStart).dropCandidate
    some { (progress.push .blockEntry).advance 1 with keyAllowed := true }

def fetchKey (progress : Progress) : Option Progress :=
  if !progress.inFlow && !progress.keyAllowed then none
  else do
    let column := (first progress.rest).column
    let progress ← (progress.roll column progress.tokens.size .blockMappingStart).dropCandidate
    some { (progress.push .key).advance 1 with keyAllowed := !progress.inFlow }

/-- A colon makes a key of the candidate, or stands for itself behind an explicit key. -/
def fetchValue (progress : Progress) : Option Progress :=
  match progress.candidate with
  | some candidate =>
      let progress := progress.insert candidate.position .key
      let progress := progress.roll candidate.start.column candidate.position .blockMappingStart
      some { (progress.push .value).advance 1 with candidate := none, keyAllowed := false }
  | none =>
      if !progress.inFlow && !progress.keyAllowed then none
      else
        let column := (first progress.rest).column
        let progress := progress.roll column progress.tokens.size .blockMappingStart
        some { (progress.push .value).advance 1 with keyAllowed := !progress.inFlow }

def fetchAlias (progress : Progress) : Option Progress := do
  let progress ← progress.saveCandidate
  let (name, rest) ← Lexeme.anchorName progress.rest
  some { progress.push (.reference name) with rest, keyAllowed := false }

def fetchAnchor (progress : Progress) : Option Progress := do
  let progress ← progress.saveCandidate
  let (name, rest) ← Lexeme.anchorName progress.rest
  some { progress.push (.anchor name) with rest, keyAllowed := false }

def fetchTag (progress : Progress) : Option Progress := do
  let progress ← progress.saveCandidate
  let (tag, rest) ← Lexeme.tag progress.rest
  some { progress.push (.tag tag) with rest, keyAllowed := false }

/-- A block scalar ends at the start of a line, so a key may follow. -/
def fetchBlockScalar (progress : Progress) (literal : Bool) : Option Progress := do
  let progress ← progress.saveCandidate
  let (text, rest) ← Lexeme.block literal progress.indentation progress.rest
  some { progress.push (.scalar .quoted (String.ofList text)) with rest, keyAllowed := true }

/-- A colon may touch the value behind a quoted key within brackets. -/
def fetchQuoted (progress : Progress) (quote : Char) : Option Progress := do
  let progress ← progress.saveCandidate
  let (text, rest) ← Lexeme.quoted quote progress.rest
  some { progress.push (.scalar .quoted (String.ofList text)) with
    rest, keyAllowed := false, touching := some (first rest).index }

/-- Further lines of a plain scalar are indented more than the collection around it. -/
def fetchPlain (progress : Progress) : Option Progress := do
  let progress ← progress.saveCandidate
  let plain ← Lexeme.plain progress.inFlow (progress.indentation + 1) progress.rest
  some { progress.push (.scalar .plain (String.ofList plain.text)) with
    rest := plain.rest, keyAllowed := plain.broken }

/-- The characters at the front decide which token comes next. -/
def fetch (progress : Progress) : Option Progress :=
  let character := peek progress.rest 0
  let next := peek progress.rest 1
  let start := first progress.rest
  let flow := progress.inFlow
  if isFinish character then progress.finish
  else if start.column = 0 && character = '%' then progress.fetchDirective
  else if atMark progress.rest '-' then progress.fetchDocumentMark .documentStart
  else if atMark progress.rest '.' then progress.fetchDocumentMark .documentEnd
  else if character = '[' then progress.openFlow .flowSequenceStart
  else if character = '\x7b' then progress.openFlow .flowMappingStart
  else if character = ']' then progress.closeFlow .flowSequenceEnd
  else if character = '\x7d' then progress.closeFlow .flowMappingEnd
  else if character = ',' then progress.fetchFlowEntry
  else if character = '-' && isGap next then progress.fetchBlockEntry
  else if character = '?' && isGap next then progress.fetchKey
  else if character = ':' &&
      (isGap next || (flow && (isFlowMark next || progress.touching == some start.index))) then
    progress.fetchValue
  else if character = '*' then progress.fetchAlias
  else if character = '&' then progress.fetchAnchor
  else if character = '!' then progress.fetchTag
  else if character = '|' && !flow then progress.fetchBlockScalar true
  else if character = '>' && !flow then progress.fetchBlockScalar false
  else if character = '\x27' || character = '"' then progress.fetchQuoted character
  else if character = '%' || character = '@' || character = '\x60' then none
  else progress.fetchPlain

/-- Each step skips the gap, closes what the column closes, and fetches one token. -/
def step (progress : Progress) : Option Progress := do
  let progress ← (skipGap progress.rest progress).refreshAll
  (progress.unroll (first progress.rest).column).fetch

/-- Every token but the last uses up some of the text. -/
def run : Nat → Progress → Option (List Token)
  | 0, _ => none
  | count + 1, progress => do
      let progress ← progress.step
      if progress.tokens.back? == some .streamEnd then some progress.tokens.toList
      else run count progress

end Progress

/-- The tokens of a text, if it is well-formed. -/
def tokens? (text : String) : Option (List Token) :=
  let progress := Progress.ofText text
  progress.run (progress.rest.length + 1)

end Behavior.Yaml
