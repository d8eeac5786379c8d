import Compositor.Markup.Inline
import Compositor.Markup.Setting
import Compositor.Path.Relative

/-! The markup of blocks. Two things pass from a block to the next: whether the last block was a
heading, which decides on page breaks, and how many diagrams have been placed. -/

namespace Compositor.Markup

structure Progress where
  previousWasHeading : Bool := false
  diagramCursor : Nat := 0
  deriving DecidableEq

def Progress.cleared (progress : Progress) : Progress := { progress with previousWasHeading := false }

def tocMarker : Text := "<!-- toc -->"
def pageBreakMarker : Text := "<!-- pagebreak -->"

def breaksPage (style : DocumentStyle) (progress : Progress) (depth : UInt8) : Bool :=
  match style.pageBreakLevel with
  | some level => depth ≤ level && !progress.previousWasHeading
  | none => false

def pageBreak (breaks : Bool) : Text := if breaks then "#pagebreak(weak: true)\n" else []

/-- In title mode a heading of depth one is the title, which is neither numbered nor listed. -/
def headingLine (titleMode : Bool) (depth : UInt8) (content : Text) : Text :=
  if depth = 1 ∧ titleMode then "#heading(level: 1, outlined: false)[" ++ content ++ "]\n\n"
  else List.replicate depth.toNat '=' ++ " " ++ content ++ "\n\n"

def diagramFigure (output image : Path) : Text :=
  "#figure(\n  image(\"" ++ Path.relativeTo image output ++ "\", width: 80%),\n)\n\n"

def codeFence (language : Option Text) (code : Text) : Text :=
  "```" ++ language.getD [] ++ "\n" ++ code ++ "\n```\n\n"

/-- Diagrams are placed in turn: the next diagram block shows the next rendered image. -/
def codeBlock (setting : Setting) (language : Option Text) (code : Text) (progress : Progress) :
    Text × Progress :=
  if language = some diagramLanguage then
    match setting.diagrams[progress.diagramCursor]? with
    | some diagram =>
        (diagramFigure setting.output diagram.image,
          { progress with diagramCursor := progress.diagramCursor + 1 })
    | none => ([], progress)
  else (codeFence language code, progress)

/-- The depth of the outline; the title of a document takes no level of its own. -/
def outlineDepth (style : DocumentStyle) (titleMode : Bool) : Nat :=
  min (style.tocDepth.toNat + titleMode.toNat) (UInt32.size - 1)

def rawBlock (style : DocumentStyle) (titleMode : Bool) (html : Text) : Text :=
  let content := Text.trim html
  if content = tocMarker then
    "#outline(depth: " ++ Text.ofNat (outlineDepth style titleMode) ++ ")\n\n"
  else if content = pageBreakMarker then "#pagebreak()\n\n"
  else []

def indentLine (line : Text) : Text := if line.isEmpty then [] else ' ' :: ' ' :: line

def indentRest (text : Text) : Text :=
  match Text.lines text with
  | [] => []
  | first :: rest => first ++ rest.flatMap fun line => '\n' :: indentLine line

def itemBreak (content : Text) : Text :=
  if content.isEmpty || content.getLast? == some '\n' then [] else ['\n']

def cell (element : Text) : Text := "    [" ++ element ++ "],\n"

def tableCell (node : Node) : Text := Text.trim (inlines node.children)

def table : (rows : List Node) → Text
  | [] => []
  | header :: body =>
      "#figure(\n  table(\n    columns: " ++ Text.ofNat header.children.length ++ ",\n" ++
        (header.children.flatMap fun node => cell ("*" ++ tableCell node ++ "*")) ++
        (body.flatMap fun row => row.children.flatMap fun node => cell (tableCell node)) ++
        "  )\n)\n\n"

def listMarker (ordered : Bool) : Char := if ordered then '+' else '-'

mutual
def block (setting : Setting) (titleMode : Bool) : Node → Progress → Text × Progress
  | .heading depth children, progress =>
      (pageBreak (breaksPage setting.style progress depth) ++
          headingLine titleMode depth (inlines children),
        { progress with previousWasHeading := true })
  | .paragraph children, progress => (inlines children ++ "\n\n", progress.cleared)
  | .codeBlock language code, progress => codeBlock setting language code progress.cleared
  | .list ordered items, progress =>
      let (content, progress) :=
        listItems setting titleMode (listMarker ordered) items progress.cleared
      (content ++ "\n", progress)
  | .listItem children, progress =>
      let (content, progress) := itemContent setting titleMode [] children progress
      (indentRest (Text.trim content) ++ "\n", progress)
  | .blockQuote children, progress =>
      let (content, progress) := blocks setting titleMode children progress.cleared
      ("#quote[\n" ++ content ++ "]\n\n", progress)
  | .table rows, progress => (table rows, progress.cleared)
  | .thematicBreak, progress => ("#line(length: 100%)\n\n", progress.cleared)
  | .blockMath formula, progress => ("$ " ++ formula ++ " $\n\n", progress.cleared)
  | .raw html, progress => (rawBlock setting.style titleMode html, progress)
  | .text value, progress => (inline (.text value), progress)
  | .emphasis children, progress => (inline (.emphasis children), progress)
  | .strong children, progress => (inline (.strong children), progress)
  | .strikethrough children, progress => (inline (.strikethrough children), progress)
  | .inlineCode code, progress => (inline (.inlineCode code), progress)
  | .link url children, progress => (inline (.link url children), progress)
  | .image url alt, progress => (inline (.image url alt), progress)
  | .lineBreak, progress => (inline .lineBreak, progress)
  | .inlineMath formula, progress => (inline (.inlineMath formula), progress)
  | .document _, progress | .tableRow _, progress | .tableCell _, progress
  | .frontMatter _, progress => ([], progress)
  termination_by structural node => node

def blocks (setting : Setting) (titleMode : Bool) : List Node → Progress → Text × Progress
  | [], progress => ([], progress)
  | node :: nodes, progress =>
      let (first, progress) := block setting titleMode node progress
      let (rest, progress) := blocks setting titleMode nodes progress
      (first ++ rest, progress)

def listItems (setting : Setting) (titleMode : Bool) (marker : Char) :
    List Node → Progress → Text × Progress
  | [], progress => ([], progress)
  | item :: items, progress =>
      let (first, progress) := block setting titleMode item progress
      let (rest, progress) := listItems setting titleMode marker items progress
      (marker :: ' ' :: first ++ rest, progress)

/-- The content of a list item after `content`. Its paragraphs and lists do not end a run of
headings. -/
def itemContent (setting : Setting) (titleMode : Bool) :
    (content : Text) → List Node → Progress → Text × Progress
  | content, [], progress => (content, progress)
  | content, .paragraph children :: nodes, progress =>
      itemContent setting titleMode (content ++ itemBreak content ++ inlines children) nodes progress
  | content, .list ordered items :: nodes, progress =>
      let (inner, progress) := listItems setting titleMode (listMarker ordered) items progress
      itemContent setting titleMode (content ++ "\n" ++ inner ++ "\n") nodes progress
  | content, node :: nodes, progress =>
      let (inner, progress) := block setting titleMode node progress
      itemContent setting titleMode (content ++ itemBreak content ++ inner) nodes progress
  termination_by structural _ nodes => nodes
end

def list (setting : Setting) (titleMode ordered : Bool) (items : List Node) (progress : Progress) :
    Text × Progress :=
  let (content, progress) := listItems setting titleMode (listMarker ordered) items progress
  (content ++ "\n", progress)

theorem block_list (setting : Setting) (titleMode ordered : Bool) (items : List Node)
    (progress : Progress) :
    block setting titleMode (.list ordered items) progress =
      list setting titleMode ordered items progress.cleared := rfl

end Compositor.Markup
