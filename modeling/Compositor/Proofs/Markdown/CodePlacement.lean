import Compositor.Markdown.Article
import Compositor.Proofs.Document.CodePlacement

/-! The code of a Markdown source stands outermost or below quotes, lists and list items alone. -/

namespace Compositor.Markdown

open Node

mutual
theorem toNode_hasNoCode : (content : Inline) → hasNoCode content.toNode = true
  | .text _ | .softBreak | .hardBreak | .code _ | .html _ | .math true _ | .math false _
  | .image _ _ => by rfl
  | .emphasis children | .strong children | .strikethrough children | .link _ children => by
      rw [Inline.toNode, hasNoCode_eq]
      exact inlineNodes_hasNoCode children

theorem inlineNodes_hasNoCode : (contents : List Inline) →
    hasNoCodeAll (inlineNodes contents) = true
  | [] => rfl
  | content :: contents => by
      rw [inlineNodes, hasNoCodeAll_cons, toNode_hasNoCode content,
        inlineNodes_hasNoCode contents]
      rfl
end

theorem formulaInLine_hasNoCode (nodes : List Node) :
    hasNoCodeAll (nodes.map formulaInLine) = hasNoCodeAll nodes := by
  induction nodes with
  | nil => rfl
  | cons node nodes ih =>
      have same : hasNoCode (formulaInLine node) = hasNoCode node := by
        cases node <;> rfl
      rw [List.map_cons, hasNoCodeAll_cons, hasNoCodeAll_cons, same, ih]

theorem paragraphNode_codePlaced (contents : List Inline) :
    codePlaced (paragraphNode (inlineNodes contents)) = true := by
  unfold paragraphNode
  split
  next formula found => rfl
  next missing =>
    rw [codePlaced, hasNoCode_eq]
    · exact (formulaInLine_hasNoCode _).trans (inlineNodes_hasNoCode contents)
    all_goals simp

theorem tableNode_codePlaced (rows : List (List (List Inline))) :
    codePlaced (tableNode rows) = true := by
  have cellNode (cell : List Inline) : hasNoCode (.tableCell (inlineNodes cell)) = true := by
    rw [hasNoCode_eq]
    exact inlineNodes_hasNoCode cell
  have rowNode (cells : List (List Inline)) :
      hasNoCodeAll (cells.map fun cell => .tableCell (inlineNodes cell)) = true := by
    induction cells with
    | nil => rfl
    | cons cell cells ih =>
        rw [List.map_cons, hasNoCodeAll_cons, cellNode, ih]
        rfl
  have rowNodes : hasNoCodeAll (rows.map fun cells =>
      .tableRow (cells.map fun cell => .tableCell (inlineNodes cell))) = true := by
    induction rows with
    | nil => rfl
    | cons cells rows ih =>
        rw [List.map_cons, hasNoCodeAll_cons, hasNoCode_eq, ih]
        exact Bool.and_eq_true_iff.mpr ⟨rowNode cells, rfl⟩
  rw [tableNode, codePlaced, hasNoCode_eq]
  · exact rowNodes
  all_goals simp

mutual
theorem toNode_codePlaced : (block : Block (List Inline)) → codePlaced block.toNode = true
  | .thematicBreak | .code _ _ | .html _ => by rfl
  | .heading level content => by
      rw [Block.toNode, codePlaced, hasNoCode_eq]
      · exact inlineNodes_hasNoCode content
      all_goals simp
  | .paragraph content => paragraphNode_codePlaced content
  | .quote children => blockNodes_codePlaced children
  | .list _ items => blockNodes_codePlaced items
  | .item children => blockNodes_codePlaced children
  | .table rows => tableNode_codePlaced rows

theorem blockNodes_codePlaced : (blocks : List (Block (List Inline))) →
    codePlacedAll (blockNodes blocks) = true
  | [] => rfl
  | block :: blocks => by
      rw [blockNodes, codePlacedAll, toNode_codePlaced block, blockNodes_codePlaced blocks]
      rfl
end

theorem parse_codePlaced (source : Text) : codePlacedAll (parse source) = true := by
  unfold parse
  split
  next frontMatter rest split =>
    rw [codePlacedAll, blockNodes_codePlaced]
    rfl
  next missing => exact blockNodes_codePlaced _

end Compositor.Markdown
