import Compositor.Markdown.Line
import Compositor.Markdown.Outline
import Compositor.Markdown.TableRow

/-! What the start of a line says: whether the line goes on with an open block, and which block
it opens. -/

namespace Compositor.Markdown

inductive Continuation where
  | continues (cursor : Cursor)
  | stops
  | closes

def closingFence (mark : Char) (line : Text) : Nat :=
  let length := (line.takeWhile (· == mark)).length
  if 3 ≤ length ∧ (line.drop length).all isSpaceOrTab then length else 0

def quoteMark? (cursor : Cursor) : Option Cursor :=
  match cursor.content with
  | '>' :: _ => if cursor.indent ≤ 3 then some cursor.toContent.advanceCharacter.skipBlank else none
  | _ => none

def continueBlock (block : OpenBlock) (hasContent : Bool) (cursor : Cursor) : Continuation :=
  match block.kind with
  | .document | .list _ | .html (.atText _) => .continues cursor
  | .quote =>
      match quoteMark? cursor with
      | some cursor => .continues cursor
      | none => .stops
  | .item indent =>
      if indent ≤ cursor.indent then .continues (cursor.advanceColumns indent)
      else if cursor.isBlank && hasContent then .continues cursor.toContent
      else .stops
  | .paragraph _ | .html .atBlank => if cursor.isBlank then .stops else .continues cursor
  | .fenced fence =>
      if cursor.indent ≤ 3 && fence.length ≤ closingFence fence.mark cursor.content then .closes
      else .continues (cursor.skipBlanks fence.indent)
  | .indented =>
      if 4 ≤ cursor.indent then .continues (cursor.advanceColumns 4)
      else if cursor.isBlank then .continues cursor.toContent
      else .stops
  | .table _ _ => if isRow cursor.content then .continues cursor else .stops

inductive Start where
  | quote (cursor : Cursor)
  | heading (level : UInt8) (text : Text)
  | fence (fence : Fence) (cursor : Cursor)
  | html (closing : Html.Closing)
  | underline (level : UInt8)
  | thematicBreak
  | item (marker : ListMarker) (indent : Nat) (cursor : Cursor)
  | code (cursor : Cursor)
  /-- The last line of the paragraph is the head of a table; the text above it is not. -/
  | tableHead (above : Text) (cells : List Text)
  | noTable
  | tableRow (cells : List Text)

structure Place where
  block : OpenBlock
  allMatched : Bool
  /-- Whether a paragraph before the line takes it even if it is indented. -/
  lazy : Bool
  itemsLeft : Nat
  cursor : Cursor

namespace Place

def line (place : Place) : Text := place.cursor.content

def isIndented (place : Place) : Bool := 4 ≤ place.cursor.indent

def inParagraph (place : Place) : Bool := place.block.isParagraph

def quote? (place : Place) : Option Start := (quoteMark? place.cursor).map .quote

def headingText (text : Text) : Text :=
  let text := trimSpaceEnd (dropSpacesAndTabs text)
  let kept := (text.reverse.dropWhile (· == '#')).reverse
  if (kept.getLast?.map isSpaceOrTab).getD true then trimSpaceEnd kept else text

def heading? (place : Place) : Option Start :=
  let level := (place.line.takeWhile (· == '#')).length
  let rest := place.line.drop level
  if place.isIndented || level < 1 || 6 < level || !(rest.head?.map isSpaceOrTab).getD true then none
  else some (.heading (UInt8.ofNat level) (headingText rest))

/-- What follows an opening fence of backticks holds no backtick. -/
def fence? (place : Place) : Option Start :=
  match place.line with
  | [] => none
  | mark :: _ =>
      let length := (place.line.takeWhile (· == mark)).length
      let isFence := mark = '~' ∨ (mark = '\x60' ∧ !(place.line.drop length).contains '\x60')
      if place.isIndented || length < 3 || !isFence then none
      else some (.fence ⟨mark, length, place.cursor.blanks⟩
        (place.cursor.toContent.advanceCharacters length))

def html? (place : Place) : Option Start :=
  if place.isIndented then none else (Html.blockStart? place.inParagraph place.line).map .html

def underline? (place : Place) : Option Start :=
  match place.line with
  | [] => none
  | mark :: _ =>
      let isUnderline := (mark = '=' ∨ mark = '-') ∧
        (place.line.dropWhile (· == mark)).all isSpaceOrTab
      if place.isIndented || !place.inParagraph || !isUnderline then none
      else some (.underline (if mark = '=' then 1 else 2))

def thematicBreak? (place : Place) : Option Start :=
  match place.line with
  | [] => none
  | mark :: _ =>
      let isBreak := ['*', '_', '-'].contains mark && 3 ≤ place.line.count mark &&
        place.line.all fun character => character == mark || isSpaceOrTab character
      if place.isIndented || (place.inParagraph && !place.allMatched) || !isBreak then none
      else some .thematicBreak

structure MarkerRead where
  marker : ListMarker
  number : Nat
  length : Nat
  rest : Text

def readMarker? (line : Text) : Option MarkerRead :=
  let digits := (line.takeWhile Char.isDigit).take 9
  match line.drop digits.length with
  | [] => none
  | sign :: rest =>
      if digits.isEmpty then
        if ['*', '-', '+'].contains sign then some ⟨⟨false, sign⟩, 1, 1, rest⟩ else none
      else if sign = '.' ∨ sign = ')' then
        some ⟨⟨true, sign⟩, Text.digitsValue 0 digits, digits.length + 1, rest⟩
      else none

/-- White space follows a marker. An item that interrupts a paragraph has text, and the number one
if it is numbered. -/
def MarkerRead.startsItem (inParagraph : Bool) (read : MarkerRead) : Bool :=
  (read.rest.head?.map isSpace).getD true &&
    (!inParagraph || (read.number == 1 && !(dropSpacesAndTabs read.rest).isEmpty))

/-- The place where the text of an item starts and its distance from the marker. Text that is five
columns away or more, or missing, counts from the first column after the marker. -/
def MarkerRead.content (read : MarkerRead) (cursor : Cursor) : Cursor × Nat :=
  let afterMarker := cursor.toContent.advanceCharacters read.length
  let afterBlanks := afterMarker.skipBlanks 6
  let width := afterBlanks.column - afterMarker.column
  if width < 1 ∨ 5 ≤ width ∨ afterBlanks.rest.isEmpty then
    (if width = 0 then afterMarker else afterMarker.advanceColumn, read.length + 1)
  else (afterBlanks, read.length + width)

def item? (place : Place) : Option Start :=
  if place.isIndented || place.itemsLeft == 0 then none
  else match readMarker? place.line with
    | some read =>
        if read.startsItem place.inParagraph then
          let (cursor, width) := read.content place.cursor
          some (.item read.marker (place.cursor.indent + width) cursor)
        else none
    | none => none

def code? (place : Place) : Option Start :=
  if !place.isIndented || place.lazy || place.cursor.isBlank then none
  else some (.code (place.cursor.advanceColumns 4))

/-- A delimiter line makes the line before it the head of a table if both have as many cells. -/
def tableHead? (place : Place) : Option Start :=
  match place.block.kind with
  | .paragraph true =>
      if place.isIndented || !isDelimiterLine place.line then none
      else
        let text := place.block.text.dropLast
        let head := (text.reverse.takeWhile (· != '\n')).reverse
        let cells := rowCells head
        if cells.isEmpty || cells.length != (rowCells place.line).length then some .noTable
        else some (.tableHead (text.take (text.length - head.length)) cells)
  | _ => none

def tableRow? (place : Place) : Option Start :=
  match place.block.kind with
  | .table columns _ =>
      if place.isIndented || place.cursor.isBlank || !isRow place.line then none
      else some (.tableRow ((rowCells place.line ++ List.replicate columns []).take columns))
  | _ => none

def start? (place : Place) : Option Start :=
  [quote?, heading?, fence?, html?, underline?, thematicBreak?, item?, code?, tableHead?,
    tableRow?].findSome? fun read? => read? place

end Place
end Compositor.Markdown
