import Compositor.Markup.Conversion
import Compositor.Proofs.Document.Tree
import Compositor.Proofs.Markup.Division
import Compositor.Proofs.Markup.PreambleBrackets

/-! The brackets of a document. Headings, links, cells, quotes and groups open brackets around their
content and close them again, at any depth, so a conversion is balanced as long as the texts that
it writes hold no brackets of their own. -/

namespace Compositor

open Text

namespace Node

/-- The texts that a node may add to the markup. Raw content, frontmatter and the code of a diagram
are read but not written. -/
def writtenTexts : Node → List Text
  | .text value => [value]
  | .inlineCode code => [code]
  | .codeBlock language code =>
      if language = some diagramLanguage then [] else language.toList ++ [code]
  | .link url _ => [url]
  | .image url alt => [url, alt]
  | .inlineMath formula | .blockMath formula => [formula]
  | .document _ | .heading _ _ | .paragraph _ | .emphasis _ | .strong _ | .strikethrough _
  | .list _ _ | .listItem _ | .blockQuote _ | .table _ | .tableRow _ | .tableCell _
  | .thematicBreak | .lineBreak | .raw _ | .frontMatter _ => []

def Unbracketed (node : Node) : Prop :=
  ∀ text ∈ node.preorder.flatMap writtenTexts, bracketFree text = true

theorem unbracketed_iff {node : Node} :
    node.Unbracketed ↔ (∀ text ∈ node.writtenTexts, bracketFree text = true) ∧
      ∀ child ∈ node.children, child.Unbracketed := by
  rw [Unbracketed, preorder_eq, List.flatMap_cons, List.forall_mem_append, preorderAll_eq,
    List.flatMap_assoc, List.forall_mem_flatMap]
  rfl

end Node

namespace Markup

open Node

def Setting.writtenTexts (setting : Setting) : List Text :=
  setting.toPlaces.writtenTexts ++ setting.style.writtenTexts ++ setting.diagrams.map (·.image)

/-! Inline content. -/

theorem escaped_bracketFree {escape : Char → Text} {text : Text}
    (each : ∀ character, escape character = ['\\', character] ∨ escape character = [character])
    (free : bracketFree text = true) : bracketFree (text.flatMap escape) = true := by
  rw [bracketFree_flatMap]
  rw [bracketFree_iff] at free
  intro character member
  have single : bracketFree [character] = true := bracketFree_cons.mpr ⟨free character member, rfl⟩
  rcases each character with escaped | same
  · rw [escaped]
    exact bracketFree_cons.mpr ⟨rfl, single⟩
  · rw [same]
    exact single

theorem escapeText_bracketFree {text : Text} (free : bracketFree text = true) :
    bracketFree (escapeText text) = true := by
  apply escaped_bracketFree _ free
  intro character
  unfold escapeCharacter
  split
  · exact .inl rfl
  · exact .inr rfl

theorem quoteText_bracketFree {text : Text} (free : bracketFree text = true) :
    bracketFree (quoteText text) = true := by
  apply escaped_bracketFree _ free
  intro character
  unfold quoteCharacter
  split
  · exact .inl rfl
  · exact .inr rfl

theorem imageFigure_balanced {url alt : Text} (urlFree : bracketFree url = true)
    (altFree : bracketFree alt = true) : Balanced (imageFigure url alt) := by
  have address := balanced_of_bracketFree (quoteText_bracketFree urlFree)
  have caption := balanced_of_bracketFree (escapeText_bracketFree altFree)
  have front := Balanced.append (by decide : Balanced "#figure(\n  image(\"") address
  exact caption.within ((front.nests 0).append (by decide)) (by decide)

theorem inline_balanced {node : Node} (free : node.Unbracketed) : Balanced (inline node) := by
  induction node using Node.childInduction with
  | step node ih =>
      obtain ⟨own, below⟩ := unbracketed_iff.mp free
      have content : Balanced (inlines node.children) := by
        rw [inlines_eq]
        exact Balanced.flatMap fun child member => ih child member (below child member)
      have ownBalanced (text : Text) (isOwn : text ∈ node.writtenTexts) :=
        balanced_of_bracketFree (own text isOwn)
      cases node with
      | text value => exact balanced_of_bracketFree (escapeText_bracketFree (own value (.head _)))
      | inlineCode code =>
          exact (ownBalanced code (.head _)).between (by decide) (by decide)
      | inlineMath formula =>
          exact (ownBalanced formula (.head _)).between (by decide) (by decide)
      | image url alt =>
          exact imageFigure_balanced (own url (.head _)) (own alt (.tail _ (.head _)))
      | lineBreak => exact (by decide : Balanced " \\\n")
      | emphasis children => exact content.between (by decide) (by decide)
      | strong children => exact content.between (by decide) (by decide)
      | strikethrough children => exact content.within (by decide) (by decide)
      | link url children =>
          have address := balanced_of_bracketFree (quoteText_bracketFree (own url (.head _)))
          have front := Balanced.append (by decide : Balanced "#link(\"") address
          exact content.within ((front.nests 0).append (by decide)) (by decide)
      | _ => exact .nil

theorem inlines_balanced {nodes : List Node} (free : ∀ node ∈ nodes, node.Unbracketed) :
    Balanced (inlines nodes) := by
  rw [inlines_eq]
  exact Balanced.flatMap fun node member => inline_balanced (free node member)

/-! Tables. -/

theorem tableCell_balanced {node : Node} (free : node.Unbracketed) : Balanced (tableCell node) := by
  have content := inlines_balanced (unbracketed_iff.mp free).2
  exact content.of_squeeze (squeeze_trim _)

theorem row_balanced {markup : Text → Text}
    (cells : ∀ {text : Text}, Balanced text → Balanced (markup text)) {row : Node}
    (free : row.Unbracketed) :
    Balanced (row.children.flatMap fun node => markup (tableCell node)) := by
  apply Balanced.flatMap
  intro node member
  exact cells (tableCell_balanced ((unbracketed_iff.mp free).2 node member))

theorem table_balanced {rows : List Node} (free : ∀ row ∈ rows, row.Unbracketed) :
    Balanced (table rows) := by
  have plain {text : Text} (balanced : Balanced text) : Balanced (cell text) :=
    balanced.within (by decide) (by decide)
  have strong {text : Text} (balanced : Balanced text) : Balanced (cell ("*" ++ text ++ "*")) :=
    plain (balanced.between (by decide) (by decide))
  cases rows with
  | nil => exact .nil
  | cons header body =>
      have columns := balanced_of_bracketFree (bracketFree_ofNat header.children.length)
      have head := row_balanced strong (free header (.head _))
      have rest : Balanced
          (body.flatMap fun row => row.children.flatMap fun node => cell (tableCell node)) :=
        Balanced.flatMap fun row member => row_balanced plain (free row (.tail _ member))
      unfold table
      repeat' apply Balanced.append
      all_goals first | assumption | decide

/-! Blocks. -/

theorem pageBreak_balanced (breaks : Bool) : Balanced (pageBreak breaks) := by
  unfold pageBreak
  split <;> decide

theorem headingLine_balanced {content : Text} (balanced : Balanced content) (titleMode : Bool)
    (depth : UInt8) : Balanced (headingLine titleMode depth content) := by
  have signs : bracketFree (List.replicate depth.toNat '=') = true := by
    rw [bracketFree_iff]
    intro character member
    obtain rfl := List.eq_of_mem_replicate member
    rfl
  unfold headingLine
  split
  · exact balanced.within (by decide) (by decide)
  · have front := (balanced_of_bracketFree signs).append (by decide : Balanced " ")
    exact (front.append balanced).append (by decide)

theorem rawBlock_balanced (style : DocumentStyle) (titleMode : Bool) (html : Text) :
    Balanced (rawBlock style titleMode html) := by
  simp only [rawBlock]
  split
  · have depth := balanced_of_bracketFree (bracketFree_ofNat (outlineDepth style titleMode))
    exact depth.between (by decide) (by decide)
  · split <;> decide

theorem diagramFigure_balanced {image : Path} (free : bracketFree image = true) (output : Path) :
    Balanced (diagramFigure output image) := by
  have path := balanced_of_bracketFree (relativeTo_bracketFree free output)
  exact path.between (by decide) (by decide)

theorem itemBreak_balanced (content : Text) : Balanced (itemBreak content) := by
  unfold itemBreak
  split <;> decide

theorem itemGap_balanced (content : Text) (node : Node) : Balanced (itemGap content node) := by
  cases node with
  | list ordered items => exact (by decide : Balanced "\n")
  | _ => exact itemBreak_balanced content

section Blocks

variable {setting : Setting} {titleMode : Bool}

theorem codeBlock_balanced (images : ∀ diagram ∈ setting.diagrams, bracketFree diagram.image = true)
    {language : Option Text} {code : Text} (free : (Node.codeBlock language code).Unbracketed)
    (progress : Progress) : Balanced (codeBlock setting language code progress).1 := by
  by_cases diagram : language = some diagramLanguage
  · rw [codeBlock, if_pos diagram]
    split
    next rendered found =>
      exact diagramFigure_balanced (images rendered (List.mem_of_getElem? found)) setting.output
    next => exact .nil
  · have own := (unbracketed_iff.mp free).1
    rw [writtenTexts, if_neg diagram, List.forall_mem_append] at own
    have label : bracketFree (language.getD []) = true := by
      cases language with
      | none => rfl
      | some language => exact own.1 language (.head _)
    have code := own.2 code (.head _)
    rw [codeBlock, if_neg diagram]
    apply balanced_of_bracketFree
    unfold codeFence
    simp only [bracketFree_append]
    exact ⟨⟨⟨⟨by decide, label⟩, by decide⟩, code⟩, by decide⟩

theorem blocks_balanced_of (nodes : List Node)
    (each : ∀ node ∈ nodes, ∀ progress, Balanced (block setting titleMode node progress).1)
    (progress : Progress) : Balanced (blocks setting titleMode nodes progress).1 := by
  induction nodes generalizing progress with
  | nil => exact .nil
  | cons node nodes ih =>
      exact (each node (.head _) progress).append
        (ih (fun later member => each later (.tail _ member)) _)

theorem listContent_balanced_of (items : List Node)
    (each : ∀ item ∈ items, ∀ progress, Balanced (block setting titleMode item progress).1)
    (ordered : Bool) (progress : Progress) :
    Balanced (list setting titleMode ordered items progress).1 := by
  have marker : Balanced [listMarker ordered, ' '] := by cases ordered <;> decide
  have content (progress : Progress) :
      Balanced (listItems setting titleMode (listMarker ordered) items progress).1 := by
    induction items generalizing progress with
    | nil => exact .nil
    | cons item items ih =>
        exact (marker.append (each item (.head _) progress)).append
          (ih (fun later member => each later (.tail _ member)) _)
  exact (content progress).append (by decide)

theorem itemContent_balanced_of (nodes : List Node)
    (each : ∀ node ∈ nodes, ∀ progress, Balanced (itemChild setting titleMode node progress).1)
    {content : Text} (balanced : Balanced content) (progress : Progress) :
    Balanced (itemContent setting titleMode content nodes progress).1 := by
  induction nodes generalizing content progress with
  | nil => exact balanced
  | cons node nodes ih =>
      rw [itemContent_cons]
      apply ih fun later member => each later (.tail _ member)
      exact (balanced.append (itemGap_balanced content node)).append (each node (.head _) progress)

theorem block_balanced (images : ∀ diagram ∈ setting.diagrams, bracketFree diagram.image = true)
    {node : Node} (free : node.Unbracketed) :
    (∀ progress, Balanced (block setting titleMode node progress).1) ∧
      ∀ progress, Balanced (itemChild setting titleMode node progress).1 := by
  induction node using Node.childInduction with
  | step node ih =>
      obtain ⟨own, below⟩ := unbracketed_iff.mp free
      have asBlock := fun child member => (ih child member (below child member)).1
      have asChild := fun child member => (ih child member (below child member)).2
      have content := inlines_balanced below
      -- Only paragraphs and lists are set in another way by an item.
      have alike (same : itemChild setting titleMode node = block setting titleMode node)
          (balanced : ∀ progress, Balanced (block setting titleMode node progress).1) :
          (∀ progress, Balanced (block setting titleMode node progress).1) ∧
            ∀ progress, Balanced (itemChild setting titleMode node progress).1 := by
        rw [same]
        exact ⟨balanced, balanced⟩
      cases node with
      | heading depth children =>
          refine alike rfl fun progress => ?_
          exact (pageBreak_balanced _).append (headingLine_balanced content titleMode depth)
      | paragraph children =>
          exact ⟨fun _ => content.append (by decide), fun _ => content⟩
      | codeBlock language code =>
          exact alike rfl fun progress => codeBlock_balanced images free progress.cleared
      | list ordered items =>
          have listed := listContent_balanced_of items asBlock ordered
          exact ⟨fun progress => listed progress.cleared, listed⟩
      | listItem children =>
          refine alike rfl fun progress => ?_
          have inner := itemContent_balanced_of children asChild .nil progress
          rw [block_listItem]
          refine Balanced.append (inner.of_squeeze ?_) (by decide)
          rw [squeeze_indentRest, squeeze_trim]
      | blockQuote children =>
          refine alike rfl fun progress => ?_
          rw [block_blockQuote]
          have quoted := blocks_balanced_of children asBlock progress.cleared
          exact quoted.within (by decide) (by decide)
      | table rows => exact alike rfl fun _ => table_balanced below
      | thematicBreak => exact alike rfl fun _ => (by decide : Balanced "#line(length: 100%)\n\n")
      | blockMath formula =>
          refine alike rfl fun _ => ?_
          have body := balanced_of_bracketFree (own formula (.head _))
          exact body.between (by decide) (by decide)
      | raw html => exact alike rfl fun _ => rawBlock_balanced setting.style titleMode html
      | text _ | emphasis _ | strong _ | strikethrough _ | inlineCode _ | link _ _ | image _ _
      | lineBreak | inlineMath _ => exact alike rfl fun _ => inline_balanced free
      | _ => exact alike rfl fun _ => .nil

end Blocks

/-! Documents. -/

theorem wrap_balanced {content : Text} (balanced : Balanced content) (group : Group) :
    Balanced (group.wrap content) := by
  unfold Group.wrap
  split
  · exact balanced.within (by decide) (by decide)
  · exact balanced

section Documents

variable {setting : Setting} {titleMode : Bool}

theorem groupsMarkup_balanced_of (groups : List Group)
    (each : ∀ node ∈ groups.flatMap (·.nodes), ∀ progress,
      Balanced (block setting titleMode node progress).1) (progress : Progress) :
    Balanced (groupsMarkup setting titleMode groups progress).1 := by
  induction groups generalizing progress with
  | nil => exact .nil
  | cons group groups ih =>
      rw [List.flatMap_cons, List.forall_mem_append] at each
      have content := blocks_balanced_of group.nodes each.1 progress
      exact (wrap_balanced content group).append (ih each.2 _)

theorem body_balanced (images : ∀ diagram ∈ setting.diagrams, bracketFree diagram.image = true)
    {nodes : List Node} (free : ∀ node ∈ nodes, node.Unbracketed) (progress : Progress) :
    Balanced (body setting titleMode nodes progress).1 := by
  obtain ⟨groups, spans, divided, same⟩ := body_divided setting titleMode nodes progress
  rw [same]
  apply groupsMarkup_balanced_of
  intro node member
  have isTop := divided.sublist.subset member
  exact (block_balanced images (free node (List.mem_filter.mp isTop).1)).1

/-- Whatever the document and however it is nested, grouped and styled, a conversion is balanced if
the texts that are written hold no brackets. -/
theorem convert_balanced {setting : Setting} {nodes : List Node}
    (settingFree : ∀ text ∈ setting.writtenTexts, bracketFree text = true)
    (nodesFree : ∀ text ∈ (preorderAll nodes).flatMap writtenTexts, bracketFree text = true) :
    Balanced (convert setting nodes).markup := by
  simp only [Setting.writtenTexts, List.forall_mem_append, List.forall_mem_map] at settingFree
  obtain ⟨⟨placesFree, styleFree⟩, images⟩ := settingFree
  have each : ∀ node ∈ nodes, node.Unbracketed := by
    intro node member text isWritten
    rw [preorderAll_eq, List.flatMap_assoc] at nodesFree
    exact nodesFree text (List.mem_flatMap.mpr ⟨node, member, isWritten⟩)
  have front := preamble_balanced placesFree styleFree (setting.style.titleMode nodes)
  exact front.append (body_balanced images each {})

theorem convert_balanced_unclosedGroup :
    let header : PageBand :=
      { left := some r"{logo:art/mark.svg:2em}"
        center := some "**Draft** of {date:YYYY-MM-DD}"
        right := some "{page} of {total-pages}" }
    let setting : Setting :=
      { output := "out", diagrams := [⟨"diagram-0", "diagrams/diagram-0.svg"⟩],
        style := { font := some "serif", header := some header } }
    let item : Node := .listItem [.paragraph [.link "a.html" [.strikethrough [.text "old"]]],
      .list true [.listItem [.blockQuote [.codeBlock (some "mermaid") "A[Start] --> B[End]"]]]]
    let nodes : List Node := [.frontMatter "tags: [draft]", .heading 1 [.text "Title"],
      .raw "<!-- keep-together -->", .paragraph [.image "b.png" "view"], .codeBlock none "x",
      .list false [item], .table [.tableRow [.tableCell [.text " cell "]]], .raw "<b>[</b>"]
    (∀ text ∈ setting.writtenTexts, bracketFree text = true) ∧
      (∀ text ∈ (preorderAll nodes).flatMap writtenTexts, bracketFree text = true) ∧
        Balanced (convert setting nodes).markup := by
  intro header setting item nodes
  have settingFree : ∀ text ∈ setting.writtenTexts, bracketFree text = true := by decide
  have nodesFree : ∀ text ∈ (preorderAll nodes).flatMap writtenTexts, bracketFree text = true := by
    decide
  exact ⟨settingFree, nodesFree, convert_balanced settingFree nodesFree⟩

end Documents
end Markup
end Compositor
