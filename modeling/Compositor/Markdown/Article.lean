import Compositor.Document.Outline
import Compositor.Markdown.Blocks
import Compositor.Markdown.FrontMatter
import Compositor.Markdown.InlineReader

/-! A Markdown source as a document. -/

namespace Compositor.Markdown

mutual
def shownText : Inline → Text
  | .text value => value
  | .code literal => literal
  | .softBreak | .hardBreak => [' ']
  | .html _ | .math _ _ => []
  | .emphasis children | .strong children | .strikethrough children | .link _ children
  | .image _ children => shownTexts children

def shownTexts : List Inline → Text
  | [] => []
  | content :: contents => shownText content ++ shownTexts contents
end

mutual
def Inline.toNode : Inline → Node
  | .text value => .text value
  | .softBreak => .text ['\n']
  | .hardBreak => .lineBreak
  | .code literal => .inlineCode literal
  | .html literal => .raw literal
  | .math true formula => .blockMath formula
  | .math false formula => .inlineMath formula
  | .emphasis children => .emphasis (inlineNodes children)
  | .strong children => .strong (inlineNodes children)
  | .strikethrough children => .strikethrough (inlineNodes children)
  | .link url children => .link url (inlineNodes children)
  | .image url children => .image url (shownTexts children)

def inlineNodes : List Inline → List Node
  | [] => []
  | content :: contents => content.toNode :: inlineNodes contents
end

def isBlankText : Node → Bool
  | .text value => (Text.trim value).isEmpty
  | _ => false

def loneFormula? : List Node → Option Text
  | [] => none
  | .blockMath formula :: nodes => if nodes.all isBlankText then some formula else none
  | node :: nodes => if isBlankText node then loneFormula? nodes else none

/-- A displayed formula among other content stays in its line. -/
def formulaInLine : Node → Node
  | .blockMath formula => .inlineMath formula
  | node => node

def paragraphNode (nodes : List Node) : Node :=
  match loneFormula? nodes with
  | some formula => .blockMath formula
  | none => .paragraph (nodes.map formulaInLine)

def codeNode (info literal : Text) : Node :=
  .codeBlock (Text.words info).head? ((Text.stripEnd? ['\n'] literal).getD literal)

def tableNode (rows : List (List (List Inline))) : Node :=
  .table (rows.map fun cells => .tableRow (cells.map fun cell => .tableCell (inlineNodes cell)))

mutual
def Block.toNode : Block (List Inline) → Node
  | .thematicBreak => .thematicBreak
  | .heading level content => .heading level (inlineNodes content)
  | .paragraph content => paragraphNode (inlineNodes content)
  | .code info literal => codeNode info literal
  | .html literal => .raw literal
  | .quote children => .blockQuote (blockNodes children)
  | .list ordered items => .list ordered (blockNodes items)
  | .item children => .listItem (blockNodes children)
  | .table rows => tableNode rows

def blockNodes : List (Block (List Inline)) → List Node
  | [] => []
  | block :: blocks => block.toNode :: blockNodes blocks
end

def readSource (source : Text) : List (Block (List Inline)) :=
  let (blocks, definitions) := readBlocks source
  Block.mapAll (readInlines definitions) blocks

def parse (source : Text) : List Node :=
  match splitFrontMatter? source with
  | some (frontMatter, rest) =>
      .frontMatter (stripDelimiters frontMatter) :: blockNodes (readSource rest)
  | none => blockNodes (readSource (dropByteOrderMark source))

end Compositor.Markdown
