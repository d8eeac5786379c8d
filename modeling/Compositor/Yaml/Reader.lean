import Compositor.Yaml.Name

/-! A text as a list of tokens. Indentation opens and closes block collections. A key is known
only when the colon after it is reached, so its token is put in front of what was read since. -/

namespace Compositor.Yaml

structure KeyStart where
  required : Bool
  line : Nat
  column : Nat
  before : Nat

structure Reader where
  cursor : Cursor
  tokens : List Token := []
  /-- The columns of the open block collections, innermost first. -/
  indents : List Nat := []
  keyAllowed : Bool := true
  key : Option KeyStart := none
  /-- The possible keys around the open flow collections, innermost first. -/
  outerKeys : List (Option KeyStart) := []

namespace Reader

def inFlow (reader : Reader) : Bool := !reader.outerKeys.isEmpty

def emit (token : Token) (reader : Reader) : Reader :=
  { reader with tokens := token :: reader.tokens }

def emitAt (before : Nat) (token : Token) (reader : Reader) : Reader :=
  let later := reader.tokens.length - before
  { reader with tokens := reader.tokens.take later ++ token :: reader.tokens.drop later }

def advance (count : Nat) (reader : Reader) : Reader :=
  { reader with cursor := reader.cursor.advance count }

def moveTo (rest : Text) (reader : Reader) : Reader :=
  { reader with cursor := reader.cursor.moveTo rest }

def allowKey (allowed : Bool) (reader : Reader) : Reader := { reader with keyAllowed := allowed }

/-- Passes blanks, comments and line ends up to the next token. In block context a line end allows
a key, and then no tab may come before it. -/
def passGaps (flow : Bool) : (comment allowed : Bool) → (line column : Nat) → Text → Cursor × Bool
  | _, allowed, line, column, [] => (⟨[], line, column⟩, allowed)
  | comment, allowed, line, column, character :: text =>
      if isBreak character then passGaps flow false (allowed || !flow) (line + 1) 0 text
      else if comment then passGaps flow true allowed line (column + 1) text
      else if character = ' ' ∨ (character = '\t' ∧ (flow ∨ ¬ allowed)) then
        passGaps flow false allowed line (column + 1) text
      else if character = '#' then passGaps flow true allowed line (column + 1) text
      else if isByteOrderMark character ∧ column = 0 then passGaps flow false allowed line 1 text
      else (⟨character :: text, line, column⟩, allowed)

def toToken (reader : Reader) : Reader :=
  let cursor := reader.cursor
  let (cursor, allowed) :=
    passGaps reader.inFlow false reader.keyAllowed cursor.line cursor.column cursor.rest
  { reader with cursor := cursor, keyAllowed := allowed }

def isCurrent (cursor : Cursor) (key : KeyStart) : Bool :=
  key.line == cursor.line && cursor.column ≤ key.column + 1024

/-- A possible key with its colon still to come; where the colon cannot come any more there is
none, and a required one is missing. -/
def refresh? (cursor : Cursor) : Option KeyStart → Option (Option KeyStart)
  | some key =>
      if isCurrent cursor key then some (some key) else if key.required then none else some none
  | none => some none

def refreshKeys? (reader : Reader) : Option Reader := do
  let key ← refresh? reader.cursor reader.key
  let outerKeys ← reader.outerKeys.mapM (refresh? reader.cursor)
  some { reader with key := key, outerKeys := outerKeys }

def dropKey? (reader : Reader) : Option Reader :=
  if reader.key.any (·.required) then none else some { reader with key := none }

def saveKey? (reader : Reader) : Option Reader :=
  if reader.keyAllowed then
    (dropKey? reader).map fun reader =>
      let cursor := reader.cursor
      { reader with
        key := some ⟨!reader.inFlow && reader.indents.head? == some cursor.column, cursor.line,
          cursor.column, reader.tokens.length⟩ }
  else some reader

def closeBlocks (closed : Nat → Bool) (reader : Reader) : Reader :=
  if reader.inFlow then reader
  else
    { reader with
      indents := reader.indents.dropWhile closed
      tokens := (reader.indents.takeWhile closed).map (fun _ => .blockEnd) ++ reader.tokens }

def openBlock (column before : Nat) (token : Token) (reader : Reader) : Reader :=
  if reader.inFlow || reader.indents.head?.any (column ≤ ·) then reader
  else emitAt before token { reader with indents := column :: reader.indents }

def openHere? (token : Token) (reader : Reader) : Option Reader :=
  if reader.inFlow then some reader
  else if reader.keyAllowed then
    some (openBlock reader.cursor.column reader.tokens.length token reader)
  else none

def readDirective? (reader : Reader) : Option Reader := do
  let reader ← dropKey? (closeBlocks (fun _ => true) reader)
  let (token, rest) ← Yaml.readDirective? (reader.cursor.rest.drop 1)
  some ((reader.allowKey false).moveTo rest |>.emit token)

def readMarker? (token : Token) (reader : Reader) : Option Reader := do
  let reader ← dropKey? (closeBlocks (fun _ => true) reader)
  some ((reader.allowKey false).advance 3 |>.emit token)

def openFlow? (token : Token) (reader : Reader) : Option Reader := do
  let reader ← saveKey? reader
  some (({ reader with key := none, outerKeys := reader.key :: reader.outerKeys }.allowKey
    true).advance 1 |>.emit token)

def closeFlow? (token : Token) (reader : Reader) : Option Reader := do
  let reader ← dropKey? reader
  let reader := match reader.outerKeys with
    | key :: outerKeys => { reader with key := key, outerKeys := outerKeys }
    | [] => reader
  some ((reader.allowKey false).advance 1 |>.emit token)

def readFlowEntry? (reader : Reader) : Option Reader := do
  let reader ← dropKey? reader
  some ((reader.allowKey true).advance 1 |>.emit .flowEntry)

def readBlockEntry? (reader : Reader) : Option Reader := do
  let reader ← dropKey? (← openHere? .blockSequenceStart reader)
  some ((reader.allowKey true).advance 1 |>.emit .blockEntry)

def readKey? (reader : Reader) : Option Reader := do
  let reader ← dropKey? (← openHere? .blockMappingStart reader)
  some ((reader.allowKey !reader.inFlow).advance 1 |>.emit .key)

/-- A colon ends the possible key. Without one it starts the value of an empty key. -/
def readValue? (reader : Reader) : Option Reader :=
  match reader.key with
  | some key =>
      let reader := { reader with key := none }
      let reader := openBlock key.column key.before .blockMappingStart (emitAt key.before .key reader)
      some ((reader.allowKey false).advance 1 |>.emit .value)
  | none => do
      let reader ← openHere? .blockMappingStart reader
      some ((reader.allowKey !reader.inFlow).advance 1 |>.emit .value)

def readContent? (read? : Text → Option (Token × Text)) (reader : Reader) : Option Reader := do
  let reader ← saveKey? reader
  let (token, rest) ← read? (reader.cursor.rest.drop 1)
  some ((reader.allowKey false).moveTo rest |>.emit token)

def tagToken? (flow : Bool) (text : Text) : Option (Token × Text) := do
  let (handle, suffix, rest) ← readTag? ('!' :: text)
  if startsGap rest || (flow && rest.head? == some ',') then some (.tag handle suffix, rest)
  else none

def scalarIndent (reader : Reader) : Nat := (reader.indents.head?.map (· + 1)).getD 0

def readBlockScalar? (folded : Bool) (reader : Reader) : Option Reader := do
  let reader ← dropKey? reader
  let (text, rest) ← readBlock? folded reader.scalarIndent (reader.cursor.rest.drop 1)
  some ((reader.allowKey true).moveTo rest |>.emit (.scalar false text))

/-- A plain scalar takes the gap after it along; where that ends a line a key may follow. -/
def readPlainScalar? (reader : Reader) : Option Reader := do
  let reader ← saveKey? reader
  let plain ← readPlain? reader.inFlow reader.scalarIndent [] [] reader.cursor.rest
  some ((reader.allowKey (plain.gap.any isBreak)).moveTo plain.rest
    |>.emit (.scalar true plain.content))

def scalarToken (result : Text × Text) : Token × Text := (.scalar false result.1, result.2)

/-- Whether a plain scalar starts with a character: indicators start none, but a hyphen does
before a word, and so do the question mark and the colon in block context. -/
def startsPlain (flow : Bool) (character : Char) (text : Text) : Bool :=
  if character = '-' then !text.head?.any isSpace
  else if character = '?' ∨ character = ':' then !flow && !startsGap text
  else
    !isGap character && !isFlowIndicator character &&
      character ∉ ['#', '&', '*', '!', '|', '>', '\'', '"', '%', '@', '\x60']

def readToken? (character : Char) (text : Text) (reader : Reader) : Option Reader :=
  let atStart := reader.cursor.column == 0
  let flow := reader.inFlow
  let indicates := flow || startsGap text
  if atStart && character == '%' then readDirective? reader
  else if atStart && marksDocument '-' (character :: text) then readMarker? .documentStart reader
  else if atStart && marksDocument '.' (character :: text) then readMarker? .documentEnd reader
  else if character = '[' then openFlow? .flowSequenceStart reader
  else if character = '{' then openFlow? .flowMappingStart reader
  else if character = ']' then closeFlow? .flowSequenceEnd reader
  else if character = '}' then closeFlow? .flowMappingEnd reader
  else if character = ',' then readFlowEntry? reader
  else if character == '-' && startsGap text then readBlockEntry? reader
  else if character == '?' && indicates then readKey? reader
  else if character == ':' && indicates then readValue? reader
  else if character = '*' then
    readContent? (fun text => (readAnchor? text).map fun (name, rest) => (.alias name, rest)) reader
  else if character = '&' then
    readContent? (fun text => (readAnchor? text).map fun (name, rest) => (.anchor name, rest)) reader
  else if character = '!' then readContent? (tagToken? flow) reader
  else if character == '|' && !flow then readBlockScalar? false reader
  else if character == '>' && !flow then readBlockScalar? true reader
  else if character = '\'' then
    readContent? (fun text => (readSingleQuoted? [] [] text).map scalarToken) reader
  else if character = '"' then
    readContent? (fun text => (readDoubleQuoted? false [] [] text).map scalarToken) reader
  else if startsPlain flow character text then readPlainScalar? reader
  else none

def readTokens? : (fuel : Nat) → Reader → Option (List Token)
  | 0, _ => none
  | fuel + 1, reader => do
      let reader ← refreshKeys? reader.toToken
      let reader := closeBlocks (reader.cursor.column < ·) reader
      match reader.cursor.rest with
      | [] => (dropKey? (closeBlocks (fun _ => true) reader)).map (·.tokens.reverse)
      | character :: text => (readToken? character text reader).bind (readTokens? fuel)

end Reader

def tokens? (text : Text) : Option (List Token) :=
  if text.all isAllowed then
    let text := normalizeBreaks text
    Reader.readTokens? (text.length + 1) { cursor := ⟨text, 0, 0⟩ }
  else none

end Compositor.Yaml
