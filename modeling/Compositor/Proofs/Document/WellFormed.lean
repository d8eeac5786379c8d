import Compositor.Proofs.Document.Tree

/-! Trees with every node in its place: inline content below paragraphs, headings and cells, items
in lists, rows of cells in tables, and blocks elsewhere. -/

namespace Compositor.Node

mutual
def isInline : Node → Bool
  | .text _ | .inlineCode _ | .image _ _ | .lineBreak | .raw _ | .inlineMath _ => true
  | .emphasis children | .strong children | .strikethrough children | .link _ children =>
      areInline children
  | _ => false

def areInline : List Node → Bool
  | [] => true
  | node :: nodes => isInline node && areInline nodes
end

def isCell : Node → Bool
  | .tableCell children => areInline children
  | _ => false

def isRow : Node → Bool
  | .tableRow cells => cells.all isCell
  | _ => false

mutual
def isBlock : Node → Bool
  | .heading _ children | .paragraph children => areInline children
  | .codeBlock _ _ | .thematicBreak | .raw _ | .blockMath _ | .frontMatter _ => true
  | .blockQuote children => areBlocks children
  | .list _ items => areItems items
  | .table rows => rows.all isRow
  | _ => false

def areBlocks : List Node → Bool
  | [] => true
  | node :: nodes => isBlock node && areBlocks nodes

def isItem : Node → Bool
  | .listItem children => areBlocks children
  | _ => false

def areItems : List Node → Bool
  | [] => true
  | item :: items => isItem item && areItems items
end

theorem areInline_iff (nodes : List Node) :
    areInline nodes = true ↔ ∀ node ∈ nodes, isInline node = true := by
  induction nodes with
  | nil => simp [areInline]
  | cons node nodes ih => simp [areInline, ih]

theorem areBlocks_iff (nodes : List Node) :
    areBlocks nodes = true ↔ ∀ node ∈ nodes, isBlock node = true := by
  induction nodes with
  | nil => simp [areBlocks]
  | cons node nodes ih => simp [areBlocks, ih]

theorem areItems_iff (items : List Node) :
    areItems items = true ↔ ∀ item ∈ items, isItem item = true := by
  induction items with
  | nil => simp [areItems]
  | cons item items ih => simp [areItems, ih]

end Compositor.Node
