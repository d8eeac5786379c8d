import Compositor.Markup.Conversion
import Compositor.Proofs.Document.Tree
import Compositor.Proofs.Markup.Division
import Mathlib.Data.List.Basic

/-! Raw content has no influence on a document unless it is a marker. To mute a tree takes the text
out of all other raw content, and a muted tree is converted like the tree itself: grouping, blocks,
list items and inline content all see that raw content is there, but not what it says. -/

namespace Compositor.Markup

def markers : List Text := [tocMarker, pageBreakMarker, keepTogetherStart, keepTogetherEnd]

def readsMarker (html : Text) : Bool := markers.contains (Text.trim html)

def muteText (html : Text) : Text := if readsMarker html then html else []

mutual
def mute : Node → Node
  | .raw html => .raw (muteText html)
  | .document children => .document (muteAll children)
  | .heading depth children => .heading depth (muteAll children)
  | .paragraph children => .paragraph (muteAll children)
  | .emphasis children => .emphasis (muteAll children)
  | .strong children => .strong (muteAll children)
  | .strikethrough children => .strikethrough (muteAll children)
  | .link url children => .link url (muteAll children)
  | .list ordered items => .list ordered (muteAll items)
  | .listItem children => .listItem (muteAll children)
  | .blockQuote children => .blockQuote (muteAll children)
  | .table rows => .table (muteAll rows)
  | .tableRow cells => .tableRow (muteAll cells)
  | .tableCell children => .tableCell (muteAll children)
  | leaf => leaf

def muteAll : List Node → List Node
  | [] => []
  | node :: nodes => mute node :: muteAll nodes
end

theorem muteAll_eq (nodes : List Node) : muteAll nodes = nodes.map mute := by
  induction nodes with
  | nil => rfl
  | cons node nodes ih => rw [muteAll, ih, List.map_cons]

theorem mute_children (node : Node) : (mute node).children = node.children.map mute := by
  cases node <;> simp [mute, Node.children, muteAll_eq]

theorem muteText_marker {html : Text} (marker : readsMarker html = true) : muteText html = html :=
  if_pos marker

theorem muteText_other {html : Text} (other : readsMarker html = false) : muteText html = [] :=
  if_neg (by simp [other])

theorem trim_ne_marker {html marker : Text} (other : readsMarker html = false)
    (isMarker : marker ∈ markers) : Text.trim html ≠ marker := by
  intro reads
  have found : readsMarker html = true := by
    rw [readsMarker, reads]
    exact List.contains_iff_mem.mpr isMarker
  rw [other] at found
  cases found

theorem marker_ne_nil {marker : Text} (isMarker : marker ∈ markers) : Text.trim [] ≠ marker := by
  intro empty
  have found : (markers.contains (Text.trim [])) = true := by
    rw [empty]
    exact List.contains_iff_mem.mpr isMarker
  exact absurd found (by decide)

/-! What the parts of a translation ask of a node is the same of the muted node. -/

theorem mute_isMarker {marker : Text} (isMarker : marker ∈ markers) (node : Node) :
    (mute node).isMarker marker = node.isMarker marker := by
  cases node with
  | raw html =>
      change (Text.trim (muteText html) == marker) = (Text.trim html == marker)
      cases reads : readsMarker html with
      | true => rw [muteText_marker reads]
      | false =>
          rw [muteText_other reads, beq_eq_false_iff_ne.mpr (trim_ne_marker reads isMarker)]
          exact beq_eq_false_iff_ne.mpr (marker_ne_nil isMarker)
  | _ => rfl

theorem mute_isFrontMatter (node : Node) : (mute node).isFrontMatter = node.isFrontMatter := by
  cases node <;> rfl

theorem mute_isParagraph (node : Node) : (mute node).isParagraph = node.isParagraph := by
  cases node <;> rfl

theorem mute_isCodeBlock (node : Node) : (mute node).isCodeBlock = node.isCodeBlock := by
  cases node <;> rfl

theorem mute_headingDepth? (node : Node) : (mute node).headingDepth? = node.headingDepth? := by
  cases node <;> rfl

theorem mute_preorder (node : Node) : (mute node).preorder = node.preorder.map mute := by
  induction node using Node.childInduction with
  | step node ih =>
      rw [Node.preorder_eq, Node.preorder_eq, mute_children, Node.preorderAll_eq,
        Node.preorderAll_eq, List.map_cons, List.flatMap_map, List.map_flatMap]
      congr 1
      exact List.flatMap_congr ih

theorem mute_headingDepths (nodes : List Node) :
    Node.headingDepths (muteAll nodes) = Node.headingDepths nodes := by
  rw [Node.headingDepths, Node.headingDepths, muteAll_eq, Node.preorderAll_eq,
    Node.preorderAll_eq, List.flatMap_map]
  simp only [mute_preorder]
  rw [← List.map_flatMap, List.filterMap_map]
  congr 1
  funext node
  exact mute_headingDepth? node

theorem mute_titleMode (style : DocumentStyle) (nodes : List Node) :
    style.titleMode (muteAll nodes) = style.titleMode nodes := by
  unfold DocumentStyle.titleMode Node.hasTitle
  rw [mute_headingDepths]

/-! Inline content and tables. -/

theorem mute_inline (node : Node) : inline (mute node) = inline node := by
  induction node using Node.childInduction with
  | step node ih =>
      have content : inlines (muteAll node.children) = inlines node.children := by
        rw [muteAll_eq, inlines_eq, inlines_eq, List.flatMap_map]
        exact List.flatMap_congr ih
      cases node with
      | emphasis _ => exact congrArg (fun text : Text => "_" ++ text ++ "_") content
      | strong _ => exact congrArg (fun text : Text => "*" ++ text ++ "*") content
      | strikethrough _ => exact congrArg (fun text : Text => "#strike[" ++ text ++ "]") content
      | link url _ =>
          exact congrArg (fun text : Text => "#link(\"" ++ quoteText url ++ "\")[" ++ text ++ "]")
            content
      | _ => rfl

theorem mute_inlines (nodes : List Node) : inlines (nodes.map mute) = inlines nodes := by
  rw [inlines_eq, inlines_eq, List.flatMap_map]
  simp only [mute_inline]

theorem mute_tableCell (node : Node) : tableCell (mute node) = tableCell node := by
  rw [tableCell, tableCell, mute_children, mute_inlines]

theorem mute_row (markup : Text → Text) (row : Node) :
    ((mute row).children.flatMap fun node => markup (tableCell node)) =
      row.children.flatMap fun node => markup (tableCell node) := by
  rw [mute_children, List.flatMap_map]
  simp only [mute_tableCell]

theorem mute_table (rows : List Node) : table (rows.map mute) = table rows := by
  cases rows with
  | nil => rfl
  | cons header body =>
      have head : ((mute header).children.flatMap fun node => cell ("*" ++ tableCell node ++ "*")) =
          header.children.flatMap fun node => cell ("*" ++ tableCell node ++ "*") :=
        mute_row (fun text => cell ("*" ++ text ++ "*")) header
      have rest : ((body.map mute).flatMap fun row =>
          row.children.flatMap fun node => cell (tableCell node)) =
            body.flatMap fun row => row.children.flatMap fun node => cell (tableCell node) := by
        rw [List.flatMap_map]
        simp only [mute_row cell]
      have columns : (mute header).children.length = header.children.length := by
        rw [mute_children, List.length_map]
      rw [List.map_cons]
      unfold table
      dsimp only
      rw [head, rest, columns]

theorem rawBlock_other {html : Text} (other : readsMarker html = false) (style : DocumentStyle)
    (titleMode : Bool) : rawBlock style titleMode html = [] := by
  have notToc : Text.trim html ≠ tocMarker := trim_ne_marker other (by simp [markers])
  have notBreak : Text.trim html ≠ pageBreakMarker := trim_ne_marker other (by simp [markers])
  unfold rawBlock
  rw [if_neg notToc, if_neg notBreak]

theorem mute_rawBlock (style : DocumentStyle) (titleMode : Bool) (html : Text) :
    rawBlock style titleMode (muteText html) = rawBlock style titleMode html := by
  cases reads : readsMarker html with
  | true => rw [muteText_marker reads]
  | false =>
      rw [muteText_other reads, rawBlock_other reads]
      exact rawBlock_other (by decide) style titleMode

/-! Blocks. -/

section Blocks

variable {setting : Setting} {titleMode : Bool}

theorem mute_itemGap (content : Text) (node : Node) :
    itemGap content (mute node) = itemGap content node := by
  cases node <;> rfl

theorem mute_block (node : Node) :
    (∀ progress, block setting titleMode (mute node) progress =
        block setting titleMode node progress) ∧
      ∀ progress, itemChild setting titleMode (mute node) progress =
        itemChild setting titleMode node progress := by
  induction node using Node.childInduction with
  | step node ih =>
      have asBlock := fun child member => (ih child member).1
      have asChild := fun child member => (ih child member).2
      have content : inlines (muteAll node.children) = inlines node.children := by
        rw [muteAll_eq, mute_inlines]
      have phrase := mute_inline node
      have alike (same : ∀ progress, block setting titleMode (mute node) progress =
            block setting titleMode node progress)
          (muted : itemChild setting titleMode (mute node) =
            block setting titleMode (mute node))
          (plain : itemChild setting titleMode node = block setting titleMode node) :
          (∀ progress, block setting titleMode (mute node) progress =
              block setting titleMode node progress) ∧
            ∀ progress, itemChild setting titleMode (mute node) progress =
              itemChild setting titleMode node progress := by
        rw [muted, plain]
        exact ⟨same, same⟩
      cases node with
      | heading depth children =>
          refine alike (fun progress => ?_) rfl rfl
          exact congrArg (fun text : Text =>
            (pageBreak (breaksPage setting.style progress depth) ++
                headingLine titleMode depth text,
              { progress with previousWasHeading := true })) content
      | paragraph children =>
          constructor <;> intro progress
          · exact congrArg (fun text : Text => (text ++ "\n\n", progress.cleared)) content
          · exact congrArg (·, progress) content
      | list ordered items =>
          have same := listItems_map mute items asBlock (listMarker ordered)
          constructor <;> intro progress
          · simp only [mute, muteAll_eq, block_list, list, same]
          · simp only [mute, muteAll_eq, itemChild, list, same]
      | listItem children =>
          refine alike (fun progress => ?_) rfl rfl
          have same := itemContent_map mute mute_itemGap children asChild []
          simp only [mute, muteAll_eq, block_listItem, same]
      | blockQuote children =>
          refine alike (fun progress => ?_) rfl rfl
          have same := blocks_map mute children asBlock
          simp only [mute, muteAll_eq, block_blockQuote, same]
      | table rows =>
          refine alike (fun progress => ?_) rfl rfl
          have same := mute_table rows
          rw [← muteAll_eq] at same
          exact congrArg (·, progress.cleared) same
      | raw html =>
          refine alike (fun progress => ?_) rfl rfl
          exact congrArg (·, progress) (mute_rawBlock setting.style titleMode html)
      | emphasis _ | strong _ | strikethrough _ | link _ _ =>
          exact alike (fun progress => congrArg (·, progress) phrase) rfl rfl
      | _ => exact ⟨fun _ => rfl, fun _ => rfl⟩

end Blocks

/-! Groups. -/

theorem mute_splitAtEnd? (depth : Nat) (nodes : List Node) :
    splitAtEnd? depth (muteAll nodes) =
      (splitAtEnd? depth nodes).map fun (inner, after) => (muteAll inner, muteAll after) := by
  have starts := @mute_isMarker keepTogetherStart (by simp [markers])
  have ends := @mute_isMarker keepTogetherEnd (by simp [markers])
  induction nodes generalizing depth with
  | nil => rfl
  | cons node nodes ih =>
      simp only [muteAll, splitAtEnd?, starts, ends, ih]
      split
      · simp only [Option.map_map, Function.comp_def, muteAll]
      · split
        · cases depth with
          | zero => rfl
          | succ depth => simp only [Option.map_map, Function.comp_def, muteAll]
        · simp only [Option.map_map, Function.comp_def, muteAll]

theorem mute_heldBy? (node : Node) (nodes : List Node) :
    heldBy? (mute node) (muteAll nodes) =
      (heldBy? node nodes).map fun (inner, after) => (muteAll inner, muteAll after) := by
  unfold heldBy?
  rw [mute_isMarker (by simp [markers]), mute_splitAtEnd?]
  split <;> rfl

def Group.mute (group : Group) : Group := { group with nodes := muteAll group.nodes }

theorem mute_groups (pairCode : Bool) (nodes : List Node) :
    groups pairCode (muteAll nodes) = (groups pairCode nodes).map Group.mute := by
  fun_induction groups pairCode nodes with
  | case1 => rw [muteAll, groups]; rfl
  | case2 node nodes inner after found ih =>
      have holds : heldBy? node nodes = some (inner, after) := found
      have muted := mute_heldBy? node nodes
      rw [holds] at muted
      rw [muteAll, groups_held pairCode muted, ih]
      rfl
  | case3 node missing =>
      have holds : heldBy? node [] = none := missing
      have muted := mute_heldBy? node []
      rw [holds] at muted
      rw [muteAll, groups_loose pairCode muted]
      rfl
  | case4 node next rest missing pair ih =>
      have holds : heldBy? node (next :: rest) = none := missing
      have muted := mute_heldBy? node (next :: rest)
      rw [holds] at muted
      rw [muteAll, groups_loose pairCode muted]
      simp only [muteAll, mute_isParagraph, mute_isCodeBlock, pair, if_true, ih]
      rfl
  | case5 node next rest missing noPair ih =>
      have holds : heldBy? node (next :: rest) = none := missing
      have muted := mute_heldBy? node (next :: rest)
      rw [holds] at muted
      rw [muteAll, groups_loose pairCode muted]
      simp only [muteAll, mute_isParagraph, mute_isCodeBlock, noPair] at ih ⊢
      rw [ih]
      rfl

section Documents

variable {setting : Setting} {titleMode : Bool}

theorem mute_groupsMarkup (groups : List Group) (progress : Progress) :
    groupsMarkup setting titleMode (groups.map Group.mute) progress =
      groupsMarkup setting titleMode groups progress := by
  induction groups generalizing progress with
  | nil => rfl
  | cons group groups ih =>
      have content := blocks_map mute group.nodes
        (fun node _ => (@mute_block setting titleMode node).1) progress
      simp only [List.map_cons, groupsMarkup, Group.markup, Group.mute, muteAll_eq, content, ih]
      rfl

theorem mute_topLevel (nodes : List Node) :
    topLevel (muteAll nodes) = muteAll (topLevel nodes) := by
  rw [muteAll_eq, muteAll_eq, topLevel, topLevel, List.filter_map]
  congr 2
  funext node
  exact congrArg (! ·) (mute_isFrontMatter node)

theorem mute_body (nodes : List Node) (progress : Progress) :
    body setting titleMode (muteAll nodes) progress = body setting titleMode nodes progress := by
  change groupsMarkup setting titleMode (groups _ (topLevel (muteAll nodes))) progress = _
  rw [mute_topLevel, mute_groups, mute_groupsMarkup]
  rfl

end Documents

/-- Documents that are alike once all raw content is taken out, apart from markers, are set as the
same markup with the same copies, and leave the same progress behind. -/
theorem convert_rawContent (setting : Setting) {first second : List Node}
    (alike : muteAll first = muteAll second) :
    convert setting first = convert setting second ∧
      (body setting (setting.style.titleMode first) first {}).2 =
        (body setting (setting.style.titleMode second) second {}).2 := by
  have titles : setting.style.titleMode first = setting.style.titleMode second := by
    rw [← mute_titleMode, alike, mute_titleMode]
  have bodies (titleMode : Bool) :
      body setting titleMode first {} = body setting titleMode second {} := by
    rw [← mute_body, alike, mute_body]
  constructor
  · simp only [convert, titles, bodies]
  · rw [titles, bodies]

theorem convert_rawContent_comments :
    let document (first second third : Text) : List Node :=
      [.raw "<!-- keep-together -->", .raw first, .heading 1 [.text "Top", .raw second],
        .list true [.listItem [.paragraph [.text "a"], .raw third, .list false []]],
        .raw "<!-- /keep-together -->\n"]
    let plain := document "" "" ""
    let noisy := document "<!-- Toc -->" "<b>" "<!-- keep-together --> x"
    let setting : Setting := {}
    muteAll plain = muteAll noisy ∧ convert setting plain = convert setting noisy := by
  intro document plain noisy setting
  have alike : muteAll plain = muteAll noisy := rfl
  exact ⟨alike, (convert_rawContent setting alike).1⟩

end Compositor.Markup
