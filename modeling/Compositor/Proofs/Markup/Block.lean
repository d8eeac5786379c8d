import Compositor.Markup.Group
import Compositor.Proofs.Text.Squeeze

/-! The markup of blocks, one block at a time: what a block adds to the text of its list, quote or
list item, and the progress that it leaves behind. -/

namespace Compositor.Markup

theorem inlines_eq (nodes : List Node) : inlines nodes = nodes.flatMap inline := by
  induction nodes with
  | nil => rfl
  | cons node nodes ih => rw [inlines, ih, List.flatMap_cons]

variable (setting : Setting) (titleMode : Bool)

theorem block_listItem (children : List Node) (progress : Progress) :
    block setting titleMode (.listItem children) progress =
      (indentRest (Text.trim (itemContent setting titleMode [] children progress).1) ++
          ("\n" : Text),
        (itemContent setting titleMode [] children progress).2) := rfl

theorem block_blockQuote (children : List Node) (progress : Progress) :
    block setting titleMode (.blockQuote children) progress =
      (("#quote[\n" : Text) ++ (blocks setting titleMode children progress.cleared).1 ++
          ("]\n\n" : Text),
        (blocks setting titleMode children progress.cleared).2) := rfl

def blockTexts : List Node → Progress → List Text
  | [], _ => []
  | node :: nodes, progress =>
      (block setting titleMode node progress).1 ::
        blockTexts nodes (block setting titleMode node progress).2

def progressAfter (nodes : List Node) (progress : Progress) : Progress :=
  nodes.foldl (fun progress node => (block setting titleMode node progress).2) progress

theorem blocks_eq (nodes : List Node) (progress : Progress) :
    blocks setting titleMode nodes progress =
      ((blockTexts setting titleMode nodes progress).flatten,
        progressAfter setting titleMode nodes progress) := by
  induction nodes generalizing progress with
  | nil => rfl
  | cons node nodes ih =>
      simp only [blocks, ih]
      rfl

theorem blockTexts_append (first second : List Node) (progress : Progress) :
    blockTexts setting titleMode (first ++ second) progress =
      blockTexts setting titleMode first progress ++
        blockTexts setting titleMode second (progressAfter setting titleMode first progress) := by
  induction first generalizing progress with
  | nil => rfl
  | cons node nodes ih =>
      simp only [List.cons_append, blockTexts, ih]
      rfl

theorem length_blockTexts (nodes : List Node) (progress : Progress) :
    (blockTexts setting titleMode nodes progress).length = nodes.length := by
  induction nodes generalizing progress with
  | nil => rfl
  | cons node nodes ih => simp only [blockTexts, List.length_cons, ih]

theorem getElem?_blockTexts (nodes : List Node) (place : Nat) (progress : Progress) :
    (blockTexts setting titleMode nodes progress)[place]? = nodes[place]?.map fun node =>
      (block setting titleMode node
        (progressAfter setting titleMode (nodes.take place) progress)).1 := by
  induction nodes generalizing place progress with
  | nil => rfl
  | cons node nodes ih =>
      cases place with
      | zero => rfl
      | succ place => exact ih place _

theorem progressAfter_append (first second : List Node) (progress : Progress) :
    progressAfter setting titleMode (first ++ second) progress =
      progressAfter setting titleMode second (progressAfter setting titleMode first progress) :=
  List.foldl_append

/-! Markers of groups have no markup of their own. -/

def isGroupMarker (node : Node) : Bool :=
  node.isMarker keepTogetherStart || node.isMarker keepTogetherEnd

theorem isGroupMarker_start {node : Node} (starts : node.isMarker keepTogetherStart = true) :
    isGroupMarker node = true := by
  simp only [isGroupMarker, starts, Bool.true_or]

theorem isGroupMarker_end {node : Node} (ends : node.isMarker keepTogetherEnd = true) :
    isGroupMarker node = true := by
  simp only [isGroupMarker, ends, Bool.or_true]

theorem rawBlock_groupMarker {html : Text} (style : DocumentStyle)
    (marker : isGroupMarker (.raw html) = true) : rawBlock style titleMode html = [] := by
  simp only [isGroupMarker, Node.isMarker, Bool.or_eq_true, beq_iff_eq] at marker
  unfold rawBlock
  rcases marker with starts | ends
  · rw [starts, if_neg (by decide), if_neg (by decide)]
  · rw [ends, if_neg (by decide), if_neg (by decide)]

theorem block_groupMarker {node : Node} (marker : isGroupMarker node = true)
    (progress : Progress) : block setting titleMode node progress = ([], progress) := by
  cases node with
  | raw html =>
      have empty := rawBlock_groupMarker titleMode setting.style marker
      change (rawBlock setting.style titleMode html, progress) = ([], progress)
      rw [empty]
  | _ => simp [isGroupMarker, Node.isMarker] at marker

theorem blockTexts_groupMarker {node : Node} (marker : isGroupMarker node = true)
    (nodes : List Node) (progress : Progress) :
    blockTexts setting titleMode (node :: nodes) progress =
      [] :: blockTexts setting titleMode nodes progress := by
  simp only [blockTexts, block_groupMarker setting titleMode marker]

theorem progressAfter_groupMarker {node : Node} (marker : isGroupMarker node = true)
    (nodes : List Node) (progress : Progress) :
    progressAfter setting titleMode (node :: nodes) progress =
      progressAfter setting titleMode nodes progress := by
  simp only [progressAfter, List.foldl_cons, block_groupMarker setting titleMode marker]

/-! A list item sets its paragraphs and lists in its own way. -/

def itemChild : Node → Progress → Text × Progress
  | .paragraph children, progress => (inlines children, progress)
  | .list ordered items, progress => list setting titleMode ordered items progress
  | node, progress => block setting titleMode node progress

def itemGap (content : Text) : Node → Text
  | .list _ _ => "\n"
  | _ => itemBreak content

theorem itemContent_cons (content : Text) (node : Node) (nodes : List Node)
    (progress : Progress) :
    itemContent setting titleMode content (node :: nodes) progress =
      itemContent setting titleMode
        (content ++ itemGap content node ++ (itemChild setting titleMode node progress).1) nodes
        (itemChild setting titleMode node progress).2 := by
  cases node with
  | list ordered items =>
      simp only [itemContent, itemChild, itemGap, list, List.append_assoc]
  | _ => rfl

/-! Nodes that are set alike, under two settings or with something in them altered, make up lists,
quotes and items that are set alike. -/

section Alike

variable {setting other : Setting} {titleMode : Bool} (alter : Node → Node)

theorem blocks_map (nodes : List Node)
    (same : ∀ node ∈ nodes, ∀ progress,
      block other titleMode (alter node) progress = block setting titleMode node progress)
    (progress : Progress) :
    blocks other titleMode (nodes.map alter) progress =
      blocks setting titleMode nodes progress := by
  induction nodes generalizing progress with
  | nil => rfl
  | cons node nodes ih =>
      have rest := ih fun later member => same later (.tail _ member)
      simp only [List.map_cons, blocks, same node (.head _), rest]

theorem listItems_map (nodes : List Node)
    (same : ∀ node ∈ nodes, ∀ progress,
      block other titleMode (alter node) progress = block setting titleMode node progress)
    (marker : Char) (progress : Progress) :
    listItems other titleMode marker (nodes.map alter) progress =
      listItems setting titleMode marker nodes progress := by
  induction nodes generalizing progress with
  | nil => rfl
  | cons node nodes ih =>
      have rest := ih fun later member => same later (.tail _ member)
      simp only [List.map_cons, listItems, same node (.head _), rest]

theorem itemContent_map (gaps : ∀ content node, itemGap content (alter node) = itemGap content node)
    (nodes : List Node)
    (same : ∀ node ∈ nodes, ∀ progress,
      itemChild other titleMode (alter node) progress =
        itemChild setting titleMode node progress)
    (content : Text) (progress : Progress) :
    itemContent other titleMode content (nodes.map alter) progress =
      itemContent setting titleMode content nodes progress := by
  induction nodes generalizing content progress with
  | nil => rfl
  | cons node nodes ih =>
      rw [List.map_cons, itemContent_cons, itemContent_cons, same node (.head _), gaps]
      exact ih (fun later member => same later (.tail _ member)) _ _

end Alike

/-! Only white space is new in the indented content of an item. -/

open Text

theorem squeeze_indentLine (line : Text) : squeeze (indentLine line) = squeeze line := by
  cases line <;> rfl

theorem squeeze_indentRest (text : Text) : squeeze (indentRest text) = squeeze text := by
  have next (line : Text) : squeeze ('\n' :: indentLine line) = squeeze line := by
    rw [squeeze_blank rfl, squeeze_indentLine]
  rw [← squeeze_lines text, indentRest]
  split
  case h_1 none =>
      rw [none]
      rfl
  case h_2 first more found =>
      rw [found, squeeze_append, squeeze_flatMap, List.flatMap_cons]
      simp only [next]

end Compositor.Markup
