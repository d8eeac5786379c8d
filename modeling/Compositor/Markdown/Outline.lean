import Compositor.Markdown.Html
import Compositor.Markdown.Reference
import Compositor.Markdown.Tree

/-! The blocks that are open while a Markdown text is read, and what becomes of them. -/

namespace Compositor.Markdown

structure Fence where
  mark : Char
  length : Nat
  indent : Nat

structure ListMarker where
  ordered : Bool
  sign : Char
  deriving DecidableEq

inductive OpenKind where
  | document
  | quote
  | list (marker : ListMarker)
  | item (indent : Nat)
  /-- A paragraph whose lines may still turn out to be the head of a table. -/
  | paragraph (mayBeTable : Bool)
  | fenced (fence : Fence)
  | indented
  | html (closing : Html.Closing)
  | table (columns : Nat) (rows : List (List Text))

structure OpenBlock where
  kind : OpenKind
  children : List (Block Text) := []
  text : Text := []

namespace OpenBlock

def isParagraph (block : OpenBlock) : Bool :=
  match block.kind with
  | .paragraph _ => true
  | _ => false

def hasText (block : OpenBlock) : Bool :=
  match block.kind with
  | .fenced _ | .indented | .html _ => true
  | _ => false

/-- Lists hold items and only items; other containers hold every other kind of block. -/
def canHold (isItem : Bool) (block : OpenBlock) : Bool :=
  match block.kind with
  | .document | .quote | .item _ => !isItem
  | .list _ => isItem
  | _ => false

def addLine (line : Text) (block : OpenBlock) : OpenBlock :=
  { block with text := block.text ++ line ++ ['\n'] }

def addChild (child : Block Text) (block : OpenBlock) : OpenBlock :=
  { block with children := child :: block.children }

end OpenBlock

def cutLine (text : Text) : Text × Text :=
  (text.takeWhile (· != '\n'), (text.dropWhile (· != '\n')).drop 1)

def cleanInfo (line : Text) : Text := unescapeBackslashes (trimSpace (unescapeEntities line))

def dropBlankEnd (text : Text) : Text :=
  let isLineBlank (character : Char) : Bool := isSpaceOrTab character || character == '\n'
  let blankEnd := text.reverse.takeWhile isLineBlank
  text.take (text.length - blankEnd.length) ++ blankEnd.reverse.takeWhile (· != '\n')

structure Finished where
  block? : Option (Block Text)
  definitions : List Definition := []

def isBlankLine (text : Text) : Bool :=
  match dropSpacesAndTabs text with
  | [] => true
  | character :: _ => character == '\n'

/-- What a block has become once no further line can continue it. A paragraph of definitions
leaves no block. -/
def OpenBlock.finish (block : OpenBlock) : Finished :=
  match block.kind with
  | .document => ⟨none, []⟩
  | .quote => ⟨some (.quote block.children.reverse), []⟩
  | .list marker => ⟨some (.list marker.ordered block.children.reverse), []⟩
  | .item _ => ⟨some (.item block.children.reverse), []⟩
  | .paragraph _ =>
      let (definitions, text) := readDefinitions block.text.length block.text
      ⟨if isBlankLine text then none else some (.paragraph text), definitions⟩
  | .fenced _ =>
      let (info, literal) := cutLine block.text
      ⟨some (.code (cleanInfo info) literal), []⟩
  | .indented => ⟨some (.code [] (dropBlankEnd block.text ++ ['\n'])), []⟩
  | .html _ => ⟨some (.html block.text), []⟩
  | .table _ rows => ⟨some (.table rows.reverse), []⟩

/-- The open blocks, innermost first, and the definitions found so far. -/
structure Outline where
  blocks : List OpenBlock
  definitions : List Definition := []

namespace Outline

def start : Outline := { blocks := [{ kind := .document }] }

def updateTip (update : OpenBlock → OpenBlock) (outline : Outline) : Outline :=
  match outline.blocks with
  | tip :: rest => { outline with blocks := update tip :: rest }
  | [] => outline

def closeTip (outline : Outline) : Outline :=
  match outline.blocks with
  | tip :: parent :: rest =>
      let finished := tip.finish
      let parent := match finished.block? with
        | some block => parent.addChild block
        | none => parent
      { blocks := parent :: rest, definitions := outline.definitions ++ finished.definitions }
  | _ => outline

def blockAt? (depth : Nat) (outline : Outline) : Option OpenBlock :=
  (outline.blocks.drop (outline.blocks.length - depth)).head?

def closeTo (depth : Nat) (outline : Outline) : Outline :=
  (List.range (outline.blocks.length - depth)).foldl (fun outline _ => outline.closeTip) outline

def closeFor (isItem : Bool) (outline : Outline) : Outline :=
  let depth := (outline.blocks.dropWhile (! ·.canHold isItem)).length
  outline.closeTo depth

def push (kind : OpenKind) (outline : Outline) : Outline :=
  { outline with blocks := { kind } :: outline.blocks }

def openBlock (kind : OpenKind) (outline : Outline) : Outline :=
  match kind with
  | .item _ => (outline.closeFor true).push kind
  | _ => (outline.closeFor false).push kind

def openList (marker : ListMarker) (outline : Outline) : Outline :=
  match outline.blocks.head?.map OpenBlock.kind with
  | some (.list current) => if current = marker then outline else outline.openBlock (.list marker)
  | _ => outline.openBlock (.list marker)

def addBlock (block : Block Text) (outline : Outline) : Outline :=
  (outline.closeFor false).updateTip (·.addChild block)

def finish (outline : Outline) : List (Block Text) × List Definition :=
  let closed := outline.closeTo 1
  ((closed.blocks.head?.map OpenBlock.children).getD [] |>.reverse, closed.definitions)

end Outline
end Compositor.Markdown
