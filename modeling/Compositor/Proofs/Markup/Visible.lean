import Compositor.Proofs.Document.WellFormed
import Compositor.Proofs.Markup.Content
import Compositor.Proofs.Text.Squeeze
import Mathlib.Data.List.Forall2

/-! What a reader sees of a document is all in its body: the texts, code, formulas and addresses of
its leaves, in document order. -/

namespace Compositor.Markup

open Node Text

def leafTexts : Node → List Text
  | .text value => [escapeText value]
  | .inlineCode code => [code]
  | .codeBlock language code => if language = some diagramLanguage then [] else [code]
  | .inlineMath formula | .blockMath formula => [formula]
  | .link url _ => [quoteText url]
  | .image url alt => [quoteText url, escapeText alt]
  | _ => []

def visibleTexts (nodes : List Node) : List Text := (preorderAll nodes).flatMap leafTexts

theorem visibleTexts_cons (node : Node) (nodes : List Node) :
    visibleTexts (node :: nodes) =
      leafTexts node ++ visibleTexts node.children ++ visibleTexts nodes := by
  simp only [visibleTexts, preorderAll, preorder_eq, List.flatMap_append, List.flatMap_cons]

theorem visibleTexts_append (first second : List Node) :
    visibleTexts (first ++ second) = visibleTexts first ++ visibleTexts second := by
  simp only [visibleTexts, preorderAll_append, List.flatMap_append]

theorem visibleTexts_singleton (node : Node) :
    visibleTexts [node] = leafTexts node ++ visibleTexts node.children := by
  rw [visibleTexts_cons]
  exact List.append_nil _

theorem visibleTexts_split (node : Node) (nodes : List Node) :
    visibleTexts (node :: nodes) = visibleTexts [node] ++ visibleTexts nodes :=
  visibleTexts_append [node] nodes

theorem flatMap_shown {markup : Node → Text} (nodes : List Node)
    (each : ∀ node ∈ nodes, ShownIn (visibleTexts [node]) (markup node)) :
    ShownIn (visibleTexts nodes) (nodes.flatMap markup) := by
  induction nodes with
  | nil => exact .none _
  | cons node nodes ih =>
      rw [visibleTexts_split, List.flatMap_cons]
      exact (each node (.head _)).append (ih fun later member => each later (.tail _ member))

theorem visibleTexts_flatten (nodes : List Node) :
    (nodes.map fun node => visibleTexts [node]).flatten = visibleTexts nodes := by
  induction nodes with
  | nil => rfl
  | cons node nodes ih => rw [List.map_cons, List.flatten_cons, ih, ← visibleTexts_split]

/-! Inline content. -/

theorem inline_shown {node : Node} (formed : isInline node = true) :
    ShownIn (visibleTexts [node]) (inline node) := by
  induction node using Node.childInduction with
  | step node ih =>
      have below (areFormed : areInline node.children = true) :
          ShownIn (visibleTexts node.children) (inlines node.children) := by
        rw [areInline_iff] at areFormed
        rw [inlines_eq]
        exact flatMap_shown _ fun child member => ih child member (areFormed child member)
      rw [visibleTexts_singleton]
      cases node with
      | text value => exact .self _
      | inlineCode code => exact ((ShownIn.self code).before _).after _
      | inlineMath formula => exact ((ShownIn.self formula).before _).after _
      | image url alt =>
          have address := ((ShownIn.self (quoteText url)).before
            "#figure(\n  image(\"").after "\"),\n  caption: ["
          exact (address.append (.self (escapeText alt))).after _
      | lineBreak => exact .none _
      | raw html => exact .none _
      | emphasis children => exact ((below formed).before _).after _
      | strong children => exact ((below formed).before _).after _
      | strikethrough children => exact ((below formed).before _).after _
      | link url children =>
          have address := ((ShownIn.self (quoteText url)).before "#link(\"").after "\")["
          exact (address.append (below formed)).after _
      | _ => simp [isInline] at formed

theorem areInline_shown {nodes : List Node} (formed : areInline nodes = true) :
    ShownIn (visibleTexts nodes) (inlines nodes) := by
  rw [areInline_iff] at formed
  rw [inlines_eq]
  exact flatMap_shown nodes fun node member => inline_shown (formed node member)

/-! Tables. -/

theorem tableCell_shown {node : Node} (formed : isCell node = true) :
    ShownIn (visibleTexts [node]) (tableCell node) := by
  cases node with
  | tableCell children =>
      rw [visibleTexts_singleton]
      exact (areInline_shown formed).of_squeeze (squeeze_trim _)
  | _ => simp [isCell] at formed

theorem row_shown (markup : Node → Text) {row : Node} (formed : isRow row = true)
    (each : ∀ node, isCell node = true → ShownIn (visibleTexts [node]) (markup node)) :
    ShownIn (visibleTexts [row]) (row.children.flatMap markup) := by
  cases row with
  | tableRow cells =>
      rw [visibleTexts_singleton]
      exact flatMap_shown cells fun cell member =>
        each cell (List.all_eq_true.mp formed cell member)
  | _ => simp [isRow] at formed

theorem table_shown {rows : List Node} (formed : rows.all isRow = true) :
    ShownIn (visibleTexts rows) (table rows) := by
  cases rows with
  | nil => exact .none _
  | cons header body =>
      rw [List.all_eq_true] at formed
      have head := row_shown (fun node => cell ("*" ++ tableCell node ++ "*"))
        (formed header (.head _)) fun node isCell =>
          ((((tableCell_shown isCell).before _).after _).before _).after _
      have rest := flatMap_shown body fun row member =>
        row_shown (fun node => cell (tableCell node)) (formed row (.tail _ member))
          fun node isCell => ((tableCell_shown isCell).before _).after _
      rw [visibleTexts_split]
      exact ((head.before _).append rest).after _

/-! Blocks. -/

theorem flatten_shown {pieces : List (List Text)} {texts : List Text}
    (shown : List.Forall₂ ShownIn pieces texts) : ShownIn pieces.flatten texts.flatten := by
  induction shown with
  | nil => exact .none _
  | cons first others ih => exact first.append ih

section Blocks

variable {setting : Setting} {titleMode : Bool}

theorem blockTexts_shown_of (nodes : List Node)
    (each : ∀ node ∈ nodes, ∀ progress,
      ShownIn (visibleTexts [node]) (block setting titleMode node progress).1)
    (progress : Progress) :
    List.Forall₂ ShownIn (nodes.map fun node => visibleTexts [node])
      (blockTexts setting titleMode nodes progress) := by
  induction nodes generalizing progress with
  | nil => exact .nil
  | cons node nodes ih =>
      exact .cons (each node (.head _) progress)
        (ih (fun later member => each later (.tail _ member)) _)

theorem blocks_shown_of (nodes : List Node)
    (each : ∀ node ∈ nodes, ∀ progress,
      ShownIn (visibleTexts [node]) (block setting titleMode node progress).1)
    (progress : Progress) :
    ShownIn (visibleTexts nodes) (blocks setting titleMode nodes progress).1 := by
  rw [blocks_eq, ← visibleTexts_flatten]
  exact flatten_shown (blockTexts_shown_of nodes each progress)

theorem listItems_shown_of (items : List Node)
    (each : ∀ item ∈ items, ∀ progress,
      ShownIn (visibleTexts [item]) (block setting titleMode item progress).1)
    (marker : Char) (progress : Progress) :
    ShownIn (visibleTexts items) (listItems setting titleMode marker items progress).1 := by
  induction items generalizing progress with
  | nil => exact .none _
  | cons item items ih =>
      rw [visibleTexts_split]
      exact ((each item (.head _) progress).before [marker, ' ']).append
        (ih (fun later member => each later (.tail _ member)) _)

theorem itemContent_shown_of (nodes : List Node)
    (each : ∀ node ∈ nodes, ∀ progress,
      ShownIn (visibleTexts [node]) (itemChild setting titleMode node progress).1)
    {earlier : List Text} {content : Text} (shown : ShownIn earlier content)
    (progress : Progress) :
    ShownIn (earlier ++ visibleTexts nodes)
      (itemContent setting titleMode content nodes progress).1 := by
  induction nodes generalizing earlier content progress with
  | nil => exact (List.append_nil earlier).symm ▸ shown
  | cons node nodes ih =>
      rw [visibleTexts_split, ← List.append_assoc, itemContent_cons]
      exact ih (fun later member => each later (.tail _ member))
        ((shown.after _).append (each node (.head _) progress)) _

theorem codeBlock_shown (language : Option Text) (code : Text) (progress : Progress) :
    ShownIn (leafTexts (.codeBlock language code))
      (codeBlock setting language code progress).1 := by
  by_cases diagram : language = some diagramLanguage
  · rw [leafTexts, if_pos diagram]
    exact .none _
  · rw [leafTexts, if_neg diagram, codeBlock, if_neg diagram]
    exact ((ShownIn.self code).before _).after _

theorem heading_shown (depth : UInt8) {children : List Node} (formed : areInline children = true)
    (progress : Progress) :
    ShownIn (visibleTexts children)
      (block setting titleMode (.heading depth children) progress).1 := by
  have line : ShownIn (visibleTexts children) (headingLine titleMode depth (inlines children)) := by
    unfold headingLine
    split
    · exact ((areInline_shown formed).before _).after _
    · exact ((areInline_shown formed).before _).after _
  exact line.before _

theorem listContent_shown_of {items : List Node}
    (each : ∀ item ∈ items, ∀ progress,
      ShownIn (visibleTexts [item]) (block setting titleMode item progress).1)
    (ordered : Bool) (progress : Progress) :
    ShownIn (visibleTexts items) (list setting titleMode ordered items progress).1 :=
  (listItems_shown_of items each (listMarker ordered) progress).after _

-- An item is set by its list, so it stands in the place of a block but not below another item.
theorem block_shown (node : Node) :
    (isBlock node = true ∨ isItem node = true → ∀ progress,
        ShownIn (visibleTexts [node]) (block setting titleMode node progress).1) ∧
      (isBlock node = true → ∀ progress,
        ShownIn (visibleTexts [node]) (itemChild setting titleMode node progress).1) := by
  induction node using Node.childInduction with
  | step node ih =>
      have asBlock (formed : areBlocks node.children = true) :=
        fun child member => (ih child member).1 (.inl ((areBlocks_iff _).mp formed child member))
      have asChild (formed : areBlocks node.children = true) :=
        fun child member => (ih child member).2 ((areBlocks_iff _).mp formed child member)
      have asItem (formed : areItems node.children = true) :=
        fun child member => (ih child member).1 (.inr ((areItems_iff _).mp formed child member))
      -- Only paragraphs and lists are set in another way by an item.
      have alike (noItem : isItem node = false)
          (same : itemChild setting titleMode node = block setting titleMode node)
          (shown : isBlock node = true → ∀ progress,
            ShownIn (visibleTexts [node]) (block setting titleMode node progress).1) :
          (isBlock node = true ∨ isItem node = true → ∀ progress,
              ShownIn (visibleTexts [node]) (block setting titleMode node progress).1) ∧
            (isBlock node = true → ∀ progress,
              ShownIn (visibleTexts [node]) (itemChild setting titleMode node progress).1) := by
        rw [noItem, same]
        exact ⟨fun formed => shown (formed.resolve_right Bool.false_ne_true), shown⟩
      rw [visibleTexts_singleton] at alike ⊢
      cases node with
      | heading depth children =>
          exact alike rfl rfl fun formed progress => heading_shown depth formed progress
      | paragraph children =>
          have shown (formed : areInline children = true) :
              ShownIn (visibleTexts children) (inlines children) := areInline_shown formed
          constructor
          · intro formed progress
            exact (shown (formed.resolve_right Bool.false_ne_true)).after "\n\n"
          · intro formed progress
            exact shown formed
      | codeBlock language code =>
          refine alike rfl rfl fun _ progress => ?_
          have whole : leafTexts (.codeBlock language code) ++ visibleTexts [] = leafTexts _ :=
            List.append_nil _
          exact whole.symm ▸ codeBlock_shown language code progress.cleared
      | list ordered items =>
          have shown (formed : areItems items = true) :=
            listContent_shown_of (asItem formed) ordered
          constructor
          · intro formed progress
            exact shown (formed.resolve_right Bool.false_ne_true) progress.cleared
          · intro formed progress
            exact shown formed progress
      | listItem children =>
          constructor
          · intro formed progress
            have content := itemContent_shown_of children
              (asChild (formed.resolve_left Bool.false_ne_true)) (.none []) progress
            rw [block_listItem]
            refine ShownIn.after _ (content.of_squeeze ?_)
            rw [squeeze_indentRest, squeeze_trim]
          · intro formed
            exact absurd formed Bool.false_ne_true
      | blockQuote children =>
          refine alike rfl rfl fun formed progress => ?_
          rw [block_blockQuote]
          exact ((blocks_shown_of children (asBlock formed) progress.cleared).before _).after _
      | table rows =>
          exact alike rfl rfl fun formed _ => table_shown formed
      | blockMath formula =>
          refine alike rfl rfl fun _ progress => ?_
          exact ((ShownIn.self formula).before "$ ").after " $\n\n"
      | thematicBreak =>
          exact alike rfl rfl fun _ progress => .none _
      | raw html =>
          exact alike rfl rfl fun _ progress => .none _
      | frontMatter content =>
          exact alike rfl rfl fun _ progress => .none _
      | _ => exact alike rfl rfl fun formed => absurd formed Bool.false_ne_true

end Blocks

/-! Documents. -/

theorem assembled_shown {pieces : List (List Text)} {texts : List Text} {output : Text}
    (assembled : Assembled texts output) (shown : List.Forall₂ ShownIn pieces texts) :
    ShownIn pieces.flatten output := by
  induction assembled generalizing pieces with
  | nil =>
      cases shown
      exact .none _
  | text text rest ih =>
      cases shown with
      | cons first others => exact first.append (ih others)
  | opening rest ih => exact (ih shown).before _
  | closing rest ih => exact (ih shown).before _

theorem visibleTexts_topLevel (nodes : List Node) :
    visibleTexts (topLevel nodes) = visibleTexts nodes := by
  induction nodes with
  | nil => rfl
  | cons node nodes ih =>
      cases frontMatter : node.isFrontMatter with
      | true =>
          cases node with
          | frontMatter content => exact ih
          | _ => simp [isFrontMatter] at frontMatter
      | false =>
          have kept : topLevel (node :: nodes) = node :: topLevel nodes :=
            List.filter_cons_of_pos (by simp [frontMatter])
          rw [kept, visibleTexts_cons, visibleTexts_cons, ih]

/-- Nothing visible is lost or moved: without white space, the visible texts stand in the body one
after the other. -/
theorem body_visible (setting : Setting) (titleMode : Bool) {nodes : List Node}
    (formed : areBlocks nodes = true) (progress : Progress) :
    OccursInOrder ((visibleTexts nodes).map squeeze)
      (squeeze (body setting titleMode nodes progress).1) := by
  rw [areBlocks_iff] at formed
  have each (node : Node) (member : node ∈ topLevel nodes) :=
    (@block_shown setting titleMode node).1 (.inl (formed node (List.mem_of_mem_filter member)))
  have texts := blockTexts_shown_of (topLevel nodes) each progress
  rw [← visibleTexts_topLevel, ← visibleTexts_flatten]
  exact assembled_shown (body_assembled nodes progress) texts

theorem body_visible_quotedList :
    let item : Node := .listItem
      [.paragraph [.text "see ", .link "a\"b" [.strong [.text " $5 "]]], .codeBlock none "x\n\ny"]
    let nodes : List Node := [.frontMatter "title: T", .blockQuote [.list false [item]],
      .table [.tableRow [.tableCell [.text " h "]], .tableRow [.tableCell [.inlineMath "n"]]]]
    visibleTexts nodes = ["see ", "a\\\"b", " \\$5 ", "x\n\ny", " h ", "n"].map String.toList ∧
      areBlocks nodes = true ∧
        OccursInOrder ((visibleTexts nodes).map squeeze) (squeeze (body {} false nodes {}).1) := by
  intro item nodes
  have formed : areBlocks nodes = true := rfl
  exact ⟨rfl, formed, body_visible {} false formed {}⟩

end Compositor.Markup
