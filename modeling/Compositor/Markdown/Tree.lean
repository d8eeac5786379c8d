import Compositor.Text.Basic

/-! The structure of a Markdown text: blocks with inline content. -/

namespace Compositor.Markdown

inductive Inline where
  | text (value : Text)
  | softBreak
  | hardBreak
  | code (literal : Text)
  | html (literal : Text)
  | math (display : Bool) (formula : Text)
  | emphasis (children : List Inline)
  | strong (children : List Inline)
  | strikethrough (children : List Inline)
  | link (url : Text) (children : List Inline)
  | image (url : Text) (children : List Inline)
  deriving Inhabited

inductive Block (Content : Type) where
  | thematicBreak
  | heading (level : UInt8) (content : Content)
  | paragraph (content : Content)
  | code (info literal : Text)
  | html (literal : Text)
  | quote (children : List (Block Content))
  | list (ordered : Bool) (items : List (Block Content))
  | item (children : List (Block Content))
  | table (rows : List (List Content))
  deriving Inhabited

namespace Block

variable {Content Read : Type}

mutual
def map (read : Content → Read) : Block Content → Block Read
  | .thematicBreak => .thematicBreak
  | .heading level content => .heading level (read content)
  | .paragraph content => .paragraph (read content)
  | .code info literal => .code info literal
  | .html literal => .html literal
  | .quote children => .quote (mapAll read children)
  | .list ordered items => .list ordered (mapAll read items)
  | .item children => .item (mapAll read children)
  | .table rows => .table (rows.map (List.map read))

def mapAll (read : Content → Read) : List (Block Content) → List (Block Read)
  | [] => []
  | block :: blocks => map read block :: mapAll read blocks
end

end Block
end Compositor.Markdown
