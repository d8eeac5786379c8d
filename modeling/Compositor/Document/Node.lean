import Compositor.Text.Basic

/-! The document tree: its kinds of node, their children, and the nodes below a node in
document order. -/

namespace Compositor

/-- A node of a document. Kinds are not restricted to positions that make sense. -/
inductive Node where
  | document (children : List Node)
  | heading (depth : UInt8) (children : List Node)
  | paragraph (children : List Node)
  | text (value : Text)
  | emphasis (children : List Node)
  | strong (children : List Node)
  | strikethrough (children : List Node)
  | inlineCode (code : Text)
  | codeBlock (language : Option Text) (code : Text)
  | link (url : Text) (children : List Node)
  | image (url alt : Text)
  | list (ordered : Bool) (items : List Node)
  | listItem (children : List Node)
  | blockQuote (children : List Node)
  | table (rows : List Node)
  | tableRow (cells : List Node)
  | tableCell (children : List Node)
  | thematicBreak
  | lineBreak
  | raw (html : Text)
  | inlineMath (formula : Text)
  | blockMath (formula : Text)
  | frontMatter (content : Text)
  deriving Inhabited

namespace Node

def children : Node → List Node
  | .document children | .heading _ children | .paragraph children | .emphasis children
  | .strong children | .strikethrough children | .link _ children | .list _ children
  | .listItem children | .blockQuote children | .table children | .tableRow children
  | .tableCell children => children
  | .text _ | .inlineCode _ | .codeBlock _ _ | .image _ _ | .thematicBreak | .lineBreak
  | .raw _ | .inlineMath _ | .blockMath _ | .frontMatter _ => []

/-- Whether the node is raw content that reads `marker` between white space. -/
def isMarker (marker : Text) : Node → Bool
  | .raw html => Text.trim html == marker
  | _ => false

def isFrontMatter : Node → Bool
  | .frontMatter _ => true
  | _ => false

def isParagraph : Node → Bool
  | .paragraph _ => true
  | _ => false

def isCodeBlock : Node → Bool
  | .codeBlock _ _ => true
  | _ => false

mutual
def preorder : Node → List Node
  | .document children => .document children :: preorderAll children
  | .heading depth children => .heading depth children :: preorderAll children
  | .paragraph children => .paragraph children :: preorderAll children
  | .emphasis children => .emphasis children :: preorderAll children
  | .strong children => .strong children :: preorderAll children
  | .strikethrough children => .strikethrough children :: preorderAll children
  | .link url children => .link url children :: preorderAll children
  | .list ordered items => .list ordered items :: preorderAll items
  | .listItem children => .listItem children :: preorderAll children
  | .blockQuote children => .blockQuote children :: preorderAll children
  | .table rows => .table rows :: preorderAll rows
  | .tableRow cells => .tableRow cells :: preorderAll cells
  | .tableCell children => .tableCell children :: preorderAll children
  | leaf => [leaf]

def preorderAll : List Node → List Node
  | [] => []
  | node :: nodes => preorder node ++ preorderAll nodes
end

theorem preorder_eq (node : Node) : node.preorder = node :: preorderAll node.children := by
  cases node <;> simp [preorder, preorderAll, children]

end Node
end Compositor
