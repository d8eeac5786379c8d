import Compositor.Markdown.Autolink
import Compositor.Markdown.Delimiter
import Compositor.Markdown.Html
import Compositor.Markdown.Reference

/-! Inline content read from left to right. Brackets wait for what closes them, and runs of
delimiters for the end of the span that they stand in. -/

namespace Compositor.Markdown

inductive Piece where
  | settled (part : Part)
  /-- `followed` tells whether another bracket came after; `inside` is the source from here on. -/
  | bracket (image followed : Bool) (inside : Text)

structure InlineReader where
  /-- The source before the place, last character first. -/
  before : Text := []
  rest : Text
  pieces : List Piece := []
  /-- No bracket read so far can open a link, for a link cannot hold another. -/
  linksClosed : Bool := true
  inBrackets : Bool := false
  /-- A comment was found open to the end; no declaration is looked for after it. -/
  commentOpen : Bool := false

def bracketText (image : Bool) : Text := if image then "![" else "["

def Piece.toPart : Piece → Part
  | .settled part => part
  | .bracket image _ _ => .done (.text (bracketText image))

namespace InlineReader

def advance (count : Nat) (reader : InlineReader) : InlineReader :=
  { reader with
    before := (reader.rest.take count).reverse ++ reader.before
    rest := reader.rest.drop count }

def advanceTo (rest : Text) (reader : InlineReader) : InlineReader :=
  reader.advance (reader.rest.length - rest.length)

def push (content : Inline) (reader : InlineReader) : InlineReader :=
  { reader with pieces := .settled (.done content) :: reader.pieces }

def takeText (count : Nat) (reader : InlineReader) : InlineReader :=
  (reader.advance count).push (.text (reader.rest.take count))

def isSpecial (character : Char) : Bool :=
  ['\n', '_', '*', '"', '\x60', '\'', '\\', '&', '<', '[', ']', '!', ':', 'w', '~', '$'].contains
    character

def endsWithBreak (reader : InlineReader) : Bool :=
  match reader.pieces with
  | .settled (.done .hardBreak) :: _ => true
  | _ => false

/-- Text up to the next special character, without the space at the end of its line, and without
the space that follows a hard break. -/
def readText (reader : InlineReader) : InlineReader :=
  let text := reader.rest.take 1 ++ (reader.rest.drop 1).takeWhile (! isSpecial ·)
  let atLineEnd := (reader.rest.drop text.length).head? == some '\n'
  let shown := if atLineEnd then trimSpaceEnd text else text
  let shown := if reader.endsWithBreak then trimSpaceStart shown else shown
  (reader.advance text.length).push (.text shown)

/-- A line end is a hard break after two spaces. Spaces at the start of the next line do not
count. -/
def readLineBreak (reader : InlineReader) : InlineReader :=
  let content : Inline := match reader.before with
    | ' ' :: ' ' :: _ => .hardBreak
    | _ => .softBreak
  let rest := dropSpacesAndTabs (reader.rest.drop 1)
  (reader.advanceTo rest).push content

def readBackslash (reader : InlineReader) : InlineReader :=
  match reader.rest with
  | _ :: '\n' :: _ => (reader.advance 2).push .hardBreak
  | _ :: character :: _ =>
      if Text.isAsciiPunctuation character then (reader.advance 2).push (.text [character])
      else reader.takeText 1
  | _ => reader.takeText 1

def readAmpersand (reader : InlineReader) : InlineReader :=
  match readEntity? (reader.rest.drop 1) with
  | some (value, rest) => (reader.advanceTo rest).push (.text value)
  | none => reader.takeText 1

def cutAtRun? (mark : Char) (length : Nat) : (fuel : Nat) → Text → Option (Text × Text)
  | 0, _ => none
  | _, [] => none
  | fuel + 1, text =>
      let inner := text.takeWhile (· != mark)
      let run := (text.drop inner.length).takeWhile (· == mark)
      let rest := text.drop (inner.length + run.length)
      if run.isEmpty then none
      else if run.length = length then some (inner, rest)
      else (cutAtRun? mark length fuel rest).map fun (more, rest) => (inner ++ run ++ more, rest)

/-- The content of a code span: line ends are spaces, and one space is dropped at both ends of
content that is not all space. -/
def codeContent (source : Text) : Text :=
  let text := source.map fun character => if character = '\n' then ' ' else character
  if text.head? == some ' ' && text.getLast? == some ' ' && text.any (· != ' ') then
    (text.drop 1).dropLast
  else text

def backtickLimit : Nat := 80

def readBackticks (reader : InlineReader) : InlineReader :=
  let length := (reader.rest.takeWhile (· == '\x60')).length
  let rest := reader.rest.drop length
  let found? := if backtickLimit < length then none else cutAtRun? '\x60' length rest.length rest
  match found? with
  | some (inner, rest) => (reader.advanceTo rest).push (.code (codeContent inner))
  | none => reader.takeText length

/-- The formula up to its closing dollar sign and what follows it. No space may stand before that
sign and no digit after it; a dollar sign after a backslash does not close. -/
def cutInlineMath? : (fuel : Nat) → (last : Option Char) → Text → Option (Text × Text)
  | 0, _, _ => none
  | _, _, [] => none
  | fuel + 1, last, '$' :: text =>
      if (last.map isSpace).getD false then none
      else if last = some '\\' then
        (cutInlineMath? fuel (some '$') text).map fun (inner, rest) => ('$' :: inner, rest)
      else
        let more := text.takeWhile (· == '$')
        let rest := text.drop more.length
        if (rest.head?.map Char.isDigit).getD false then none
        else if more.isEmpty then some ([], rest)
        else (cutInlineMath? fuel (some '$') rest).map fun (inner, rest) =>
          ('$' :: more ++ inner, rest)
  | fuel + 1, _, character :: text =>
      (cutInlineMath? fuel (some character) text).map fun (inner, rest) => (character :: inner, rest)

def readDollars (reader : InlineReader) : InlineReader :=
  let length := (reader.rest.takeWhile (· == '$')).length
  let rest := reader.rest.drop length
  let startsWithSpace := (rest.head?.map isSpace).getD false
  if length = 1 ∧ !startsWithSpace then
    match cutInlineMath? (rest.length + 1) (some '$') rest with
    | some (inner, rest) => (reader.advanceTo rest).push (.math false (codeContent inner))
    | none => reader.takeText length
  else if length = 2 then
    match cutAtRun? '$' 2 rest.length rest with
    | some (inner, rest) => (reader.advanceTo rest).push (.math true inner)
    | none => reader.takeText length
  else reader.takeText length

/-- Tildes do not count as context of a run. -/
def contextCharacter (text : Text) : Char := (text.dropWhile (· == '~')).head?.getD '\n'

def readDelimiters (mark : Char) (reader : InlineReader) : InlineReader :=
  let length := (reader.rest.takeWhile (· == mark)).length
  let run := DelimiterRun.ofContext mark length (contextCharacter reader.before)
    (contextCharacter (reader.rest.drop length))
  if (run.opens || run.closes) && !(mark == '~' && 2 < length) then
    let reader := reader.advance length
    { reader with pieces := .settled (.delimiters run) :: reader.pieces }
  else reader.takeText length

def pushHtml (rest : Text) (reader : InlineReader) : InlineReader :=
  (reader.advanceTo rest).push
    (.html (reader.rest.take (reader.rest.length - rest.length)))

def readHtml (text : Text) (reader : InlineReader) : InlineReader :=
  match text with
  | '!' :: marked =>
      if reader.commentOpen then reader.takeText 1
      else match Html.readMarked marked with
        | .closed rest => reader.pushHtml rest
        | .unclosedComment => { reader.takeText 1 with commentOpen := true }
        | .other => reader.takeText 1
  | '?' :: instruction =>
      match Html.readInstruction? instruction with
      | some rest => reader.pushHtml rest
      | none => reader.takeText 1
  | _ =>
      match Html.readTag? text with
      | some rest => reader.pushHtml rest
      | none => reader.takeText 1

def readAngle (reader : InlineReader) : InlineReader :=
  let text := reader.rest.drop 1
  match readBracketedUrl? text with
  | some (url, rest) =>
      (reader.advanceTo rest).push
        (.link (unescapeEntities (trimSpace url)) [.text (unescapeEntities url)])
  | none =>
      match readBracketedMail? text with
      | some (mail, rest) =>
          (reader.advanceTo rest).push
            (.link ("mailto:" ++ unescapeEntities mail) [.text (unescapeEntities mail)])
      | none => reader.readHtml text

def dropShown : (fuel count : Nat) → List Piece → List Piece
  | fuel + 1, count, .settled (.done (.text text)) :: pieces =>
      if count < text.length then .settled (.done (.text (text.take (text.length - count)))) :: pieces
      else if count = 0 then .settled (.done (.text text)) :: pieces
      else dropShown fuel (count - text.length) pieces
  | _, _, pieces => pieces

def readAddress (urlStart : Text) (found? : Option LinkFound) (reader : InlineReader) :
    InlineReader :=
  match if reader.inBrackets then none else found? with
  | none => reader.takeText 1
  | some found =>
      let shown := (reader.before.take found.rewind).reverse ++ found.text
      let pieces := dropShown reader.pieces.length found.rewind reader.pieces
      ({ reader with pieces }.advance found.text.length).push
        (.link (urlStart ++ shown) [.text shown])

def markFollowed : List Piece → List Piece
  | .bracket image _ inside :: pieces => .bracket image true inside :: pieces
  | piece :: pieces => piece :: markFollowed pieces
  | [] => []

def readOpenBracket (image : Bool) (reader : InlineReader) : InlineReader :=
  let reader := reader.advance (bracketText image).length
  { reader with
    pieces := .bracket image false reader.rest :: markFollowed reader.pieces
    linksClosed := reader.linksClosed && image
    inBrackets := true }

structure BracketFound where
  image : Bool
  followed : Bool
  inside : Text
  inner : List Part
  before : List Piece

def findBracket? : (inner : List Part) → List Piece → Option BracketFound
  | _, [] => none
  | inner, .settled part :: pieces => findBracket? (part :: inner) pieces
  | inner, .bracket image followed inside :: pieces => some ⟨image, followed, inside, inner, pieces⟩

def readDestinationPart? : Text → Option (Text × Text)
  | '(' :: text =>
      match readDestination? (trimSpaceStart text) with
      | none => none
      | some (url, afterUrl) =>
          let beforeTitle := trimSpaceStart afterUrl
          let afterTitle :=
            if beforeTitle.length = afterUrl.length then beforeTitle
            else (readTitle? beforeTitle).getD beforeTitle
          match trimSpaceStart afterTitle with
          | ')' :: rest => some (cleanUrl url, rest)
          | _ => none
  | _ => none

/-- The destination of a reference after a closing bracket, and what follows. Without a label of
its own, the text in the brackets is the label, unless it holds brackets. -/
def readReference? (definitions : List Definition) (found : BracketFound) (source rest : Text) :
    Option (Text × Text) :=
  let shown := found.inside.take (found.inside.length - source.length)
  let (label?, after) := match readLabel? rest with
    | some (label, after) => (some label, after)
    | none => (none, rest)
  let label? := if (label?.getD []).isEmpty && !found.followed then some shown else label?
  label?.bind fun label => (lookupDefinition? definitions label).map fun url => (url, after)

def readCloseBracket (definitions : List Definition) (reader : InlineReader) : InlineReader :=
  let reader := { reader with inBrackets := false }
  match findBracket? [] reader.pieces with
  | none => reader.takeText 1
  | some found =>
      let opening : Piece := .settled (.done (.text (bracketText found.image)))
      let pieces := found.inner.reverse.map Piece.settled ++ opening :: found.before
      let rest := reader.rest.drop 1
      let linked? := if !found.image && reader.linksClosed then none
        else readDestinationPart? rest <|> readReference? definitions found reader.rest rest
      match linked? with
      | none => { reader with pieces }.takeText 1
      | some (url, rest) =>
          let children := resolveParts [] found.inner
          let content : Inline := if found.image then .image url children else .link url children
          { ({ reader with pieces := found.before }.advanceTo rest).push content with
            linksClosed := reader.linksClosed || !found.image }

def step (definitions : List Definition) (reader : InlineReader) : InlineReader :=
  match reader.rest with
  | [] => reader
  | '\n' :: _ => reader.readLineBreak
  | '\x60' :: _ => reader.readBackticks
  | '\\' :: _ => reader.readBackslash
  | '&' :: _ => reader.readAmpersand
  | '<' :: _ => reader.readAngle
  | ':' :: _ => reader.readAddress [] (findUrl? reader.before reader.rest)
  | 'w' :: _ => reader.readAddress "http://" (findWww? reader.before reader.rest)
  | '*' :: _ => reader.readDelimiters '*'
  | '_' :: _ => reader.readDelimiters '_'
  | '~' :: _ => reader.readDelimiters '~'
  | '$' :: _ => reader.readDollars
  | '[' :: _ => reader.readOpenBracket false
  | '!' :: '[' :: '^' :: _ => reader.takeText 1
  | '!' :: '[' :: _ => reader.readOpenBracket true
  | ']' :: _ => reader.readCloseBracket definitions
  | character :: _ =>
      if ['!', '"', '\'', '-', '.'].contains character then reader.takeText 1 else reader.readText

def run (definitions : List Definition) : (fuel : Nat) → InlineReader → InlineReader
  | 0, reader => reader
  | fuel + 1, reader => run definitions fuel (reader.step definitions)

end InlineReader

def joinText (text : Text) : List Inline → List Inline
  | .text more :: contents => .text (text ++ more) :: contents
  | contents => .text text :: contents

mutual
def joinTexts : List Inline → List Inline
  | [] => []
  | .text text :: contents => joinText text (joinTexts contents)
  | content :: contents => joinTextsIn content :: joinTexts contents

def joinTextsIn : Inline → Inline
  | .emphasis children => .emphasis (joinTexts children)
  | .strong children => .strong (joinTexts children)
  | .strikethrough children => .strikethrough (joinTexts children)
  | content => content
end

mutual
def linkAllMails : List Inline → List Inline
  | [] => []
  | .text text :: contents => linkMails text ++ linkAllMails contents
  | content :: contents => linkMailsIn content :: linkAllMails contents

def linkMailsIn : Inline → Inline
  | .emphasis children => .emphasis (linkAllMails children)
  | .strong children => .strong (linkAllMails children)
  | .strikethrough children => .strikethrough (linkAllMails children)
  | content => content
end

def readInlines (definitions : List Definition) (source : Text) : List Inline :=
  let source := trimSpaceEnd source
  let reader := InlineReader.run definitions source.length { rest := source }
  linkAllMails (joinTexts (resolveParts [] (reader.pieces.reverse.map Piece.toPart)))

end Compositor.Markdown
