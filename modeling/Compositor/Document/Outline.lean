import Compositor.Document.Node

/-! What is read off a document as a whole: the depths of its headings, its frontmatter and its
diagram blocks. -/

namespace Compositor

structure DiagramBlock where
  id : Text
  source : Text

structure RenderedDiagram where
  id : Text
  image : Text

def diagramLanguage : Text := "mermaid"

def DiagramBlock.name (index : Nat) : Text := "diagram-" ++ Text.ofNat index

namespace Node

def headingDepth? : Node → Option UInt8
  | .heading depth _ => some depth
  | _ => none

def diagramSource? : Node → Option Text
  | .codeBlock language code => if language = some diagramLanguage then some code else none
  | _ => none

def headingDepths (nodes : List Node) : List UInt8 := (preorderAll nodes).filterMap headingDepth?

def frontMatter? (nodes : List Node) : Option Text :=
  nodes.findSome? fun
    | .frontMatter content => some content
    | _ => none

def diagramBlocks (nodes : List Node) : List DiagramBlock :=
  ((preorderAll nodes).filterMap diagramSource?).mapIdx fun index source =>
    ⟨DiagramBlock.name index, source⟩

/-- A document has a title if its first heading has depth one and no other heading has. -/
def hasTitle (nodes : List Node) : Bool :=
  (headingDepths nodes).count 1 == 1 && (headingDepths nodes).head? == some 1

end Node
end Compositor
