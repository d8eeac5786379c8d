import Compositor.Markdown.LineStart

/-! The blocks of a Markdown text. Lines are read one after the other: each first goes on with some
of the open blocks, then opens new ones, and what is left of it is text. -/

namespace Compositor.Markdown

structure LineReading where
  outline : Outline
  depth : Nat
  cursor : Cursor
  opened : Bool := false
  consumed : Bool := false

namespace LineReading

def matchBlocks (outline : Outline) : (depth : Nat) → List OpenBlock → Cursor → LineReading
  | depth, [], cursor => { outline, depth, cursor }
  | depth, block :: inner, cursor =>
      match continueBlock block (!inner.isEmpty || !block.children.isEmpty) cursor with
      | .continues cursor => matchBlocks outline (depth + 1) inner cursor
      | .stops => { outline, depth, cursor }
      | .closes => { outline := outline.closeTo depth, depth, cursor, consumed := true }

def within (kind : OpenKind) (cursor : Cursor) (outline : Outline) : LineReading :=
  let outline := outline.openBlock kind
  { outline, depth := outline.blocks.length, cursor, opened := true }

def after (cursor : Cursor) (outline : Outline) : LineReading :=
  { outline, depth := outline.blocks.length, cursor, opened := true, consumed := true }

/-- The paragraph before an underline as a heading. Definitions at its start are taken out; where
nothing else is left, the underline is text. -/
def underline (level : UInt8) (cursor : Cursor) (outline : Outline) : LineReading :=
  match outline.blocks with
  | [] => after cursor outline
  | tip :: rest =>
      let (definitions, text) := readDefinitions tip.text.length tip.text
      let definitions := outline.definitions ++ definitions
      if isBlankLine text then
        { outline := ⟨{ tip with text } :: rest, definitions⟩, depth := outline.blocks.length, cursor,
          opened := true }
      else after cursor ((Outline.mk rest definitions).updateTip (·.addChild (.heading level text)))

/-- The paragraph before a delimiter line as a table; the lines above its last one stay a
paragraph, whose definitions are not read. -/
def tableHead (above : Text) (cells : List Text) (cursor : Cursor) (outline : Outline) :
    LineReading :=
  let outline := { outline with blocks := outline.blocks.drop 1 }
  let outline := if above.isEmpty then outline
    else outline.updateTip (·.addChild (.paragraph (trimSpace (unescapeBars above))))
  after cursor (outline.push (.table cells.length [cells]))

def start (reading : LineReading) (start : Start) : LineReading :=
  let outline := reading.outline.closeTo reading.depth
  let cursor := reading.cursor
  match start with
  | .quote cursor => within .quote cursor outline
  | .heading level text => after cursor (outline.addBlock (.heading level text))
  | .fence fence cursor => within (.fenced fence) cursor outline
  | .html closing => within (.html closing) cursor outline
  | .underline level => underline level cursor outline
  | .thematicBreak => after cursor (outline.addBlock .thematicBreak)
  | .item marker indent cursor => within (.item indent) cursor (outline.openList marker)
  | .code cursor => within .indented cursor outline
  | .tableHead above cells => tableHead above cells cursor outline
  | .noTable =>
      let outline := outline.updateTip fun tip => { tip with kind := .paragraph false }
      { outline, depth := reading.depth, cursor, opened := true }
  | .tableRow cells =>
      after cursor (outline.updateTip fun tip => match tip.kind with
        | .table columns rows => { tip with kind := .table columns (cells :: rows) }
        | _ => tip)

def mayStart (reading : LineReading) (block : OpenBlock) : Bool :=
  !reading.consumed && !block.hasText && !(reading.opened && block.isParagraph)

def startBlocks : (fuel : Nat) → (lazy : Bool) → (itemsLeft : Nat) → LineReading → LineReading
  | 0, _, _, reading => reading
  | fuel + 1, lazy, itemsLeft, reading =>
      match reading.outline.blockAt? reading.depth with
      | none => reading
      | some block =>
          if !reading.mayStart block then reading
          else
            let allMatched := reading.depth == reading.outline.blocks.length
            let place : Place := { block, allMatched, lazy, itemsLeft, cursor := reading.cursor }
            match place.start? with
            | some start => startBlocks fuel false (itemsLeft - 1) (reading.start start)
            | none => reading

def addContent (outline : Outline) (cursor : Cursor) : Outline :=
  let line := cursor.toContent.text
  match outline.blocks with
  | [] => outline
  | tip :: _ =>
      match tip.kind with
      | .fenced _ | .indented => outline.updateTip (·.addLine cursor.text)
      | .html closing =>
          let outline := outline.updateTip (·.addLine cursor.text)
          if closing.isMet cursor.content then outline.closeTip else outline
      | .paragraph _ => if cursor.isBlank then outline else outline.updateTip (·.addLine line)
      | _ =>
          if cursor.isBlank then outline
          else (outline.openBlock (.paragraph true)).updateTip (·.addLine line)

/-- The outline after the text of the line. A paragraph that the line is not in takes its text if
the line opens no block. -/
def addText (reading : LineReading) : Outline :=
  let outline := reading.outline
  let isLazy := !reading.opened && reading.depth < outline.blocks.length &&
    !reading.cursor.isBlank && (outline.blocks.head?.map OpenBlock.isParagraph).getD false
  if reading.consumed then outline
  else if isLazy then outline.updateTip (·.addLine reading.cursor.text)
  else addContent (outline.closeTo reading.depth) reading.cursor

end LineReading

def itemLimit : Nat := 99

def Outline.addLine (outline : Outline) (line : Text) : Outline :=
  let matched := LineReading.matchBlocks outline 0 outline.blocks.reverse (Cursor.ofLine line)
  let lazy := (outline.blocks.head?.map OpenBlock.isParagraph).getD false
  (LineReading.startBlocks (line.length + 2) lazy itemLimit matched).addText

def sourceLines : Text → List Text
  | [] => []
  | '\n' :: text => [] :: sourceLines text
  | '\r' :: '\n' :: text => [] :: sourceLines text
  | '\r' :: text => [] :: sourceLines text
  | character :: text =>
      let character := if character = '\x00' then '\uFFFD' else character
      match sourceLines text with
      | [] => [[character]]
      | line :: lines => (character :: line) :: lines

def readBlocks (source : Text) : List (Block Text) × List Definition :=
  ((sourceLines source).foldl Outline.addLine .start).finish

end Compositor.Markdown
