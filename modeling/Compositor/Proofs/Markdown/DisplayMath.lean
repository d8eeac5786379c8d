import Compositor.Markdown.Article
import Compositor.Proofs.Document.Formulas
import Compositor.Proofs.Markup.Block

/-! What becomes of the formulas of a Markdown text. A displayed formula that is a paragraph of its
own becomes a block, and any other should stay in its line. It does so where it stands directly in
a paragraph; in a heading, in a cell or inside other inline content it is lost. -/

namespace Compositor.Markdown

open Node

mutual
/-- The formulas at any depth. The description of an image holds none. -/
def Inline.formulas : Inline → List Formula
  | .math displayed formula => [⟨.inline, displayed, formula⟩]
  | .emphasis children | .strong children | .strikethrough children | .link _ children =>
      inlineFormulas children
  | .text _ | .softBreak | .hardBreak | .code _ | .html _ | .image _ _ => []

def inlineFormulas : List Inline → List Formula
  | [] => []
  | content :: contents => content.formulas ++ inlineFormulas contents
end

def Inline.isBlank : Inline → Bool
  | .text value => (Text.trim value).isEmpty
  | .softBreak => true
  | _ => false

def displayedAlone? (contents : List Inline) : Option Text :=
  match contents.filter (! ·.isBlank) with
  | [.math true formula] => some formula
  | _ => none

def settledFormulas (contents : List Inline) : List Formula :=
  (inlineFormulas contents).map Formula.settled

mutual
/-- The formulas that the document should have, each in the form that its position asks for. -/
def Block.intended : Block (List Inline) → List Formula
  | .heading _ contents => settledFormulas contents
  | .paragraph contents =>
      match displayedAlone? contents with
      | some formula => [⟨.block, true, formula⟩]
      | none => settledFormulas contents
  | .table rows => rows.flatMap fun cells => cells.flatMap settledFormulas
  | .quote children | .list _ children | .item children => intendedAll children
  | .thematicBreak | .code _ _ | .html _ => []

def intendedAll : List (Block (List Inline)) → List Formula
  | [] => []
  | block :: blocks => block.intended ++ intendedAll blocks
end

def Inline.nestedStrays : Inline → List Text
  | .math _ _ => []
  | content => lostFormulas content.formulas

mutual
/-- The displayed formulas that stand neither alone nor directly in a paragraph. -/
def Block.strays : Block (List Inline) → List Text
  | .heading _ contents => lostFormulas (inlineFormulas contents)
  | .paragraph contents => contents.flatMap Inline.nestedStrays
  | .table rows =>
      rows.flatMap fun cells => cells.flatMap fun contents => lostFormulas (inlineFormulas contents)
  | .quote children | .list _ children | .item children => straysAll children
  | .thematicBreak | .code _ _ | .html _ => []

def straysAll : List (Block (List Inline)) → List Text
  | [] => []
  | block :: blocks => block.strays ++ straysAll blocks
end

/-! Inline content. -/

mutual
theorem toNode_formulas : (content : Inline) → content.toNode.formulas .inline = content.formulas
  | .text _ | .softBreak | .hardBreak | .code _ | .html _ | .math true _ | .math false _
  | .image _ _ => by rfl
  | .emphasis children | .strong children | .strikethrough children | .link _ children =>
      inlineNodes_formulas children

theorem inlineNodes_formulas : (contents : List Inline) →
    formulasAll .inline (inlineNodes contents) = inlineFormulas contents
  | [] => rfl
  | content :: contents => by
      rw [inlineNodes, formulasAll, toNode_formulas content, inlineNodes_formulas contents]
      rfl
end

theorem isBlankText_toNode (content : Inline) : isBlankText content.toNode = content.isBlank := by
  cases content with
  | math displayed formula => cases displayed <;> rfl
  | _ => rfl

theorem all_isBlankText (contents : List Inline) :
    (inlineNodes contents).all isBlankText = (contents.filter (! ·.isBlank)).isEmpty := by
  induction contents with
  | nil => rfl
  | cons content contents ih =>
      rw [inlineNodes, List.all_cons, isBlankText_toNode, ih]
      cases blank : content.isBlank <;> simp [blank]

theorem loneFormula?_inlineNodes (contents : List Inline) :
    loneFormula? (inlineNodes contents) = displayedAlone? contents := by
  induction contents with
  | nil => rfl
  | cons content contents ih =>
      by_cases isMath : ∃ formula, content = .math true formula
      · obtain ⟨formula, rfl⟩ := isMath
        rw [inlineNodes, Inline.toNode, loneFormula?, all_isBlankText, displayedAlone?,
          List.filter_cons_of_pos rfl]
        cases contents.filter (! ·.isBlank) <;> rfl
      · have other (formula : Text) : content.toNode ≠ .blockMath formula := by
          cases content with
          | math displayed formula => cases displayed <;> simp_all [Inline.toNode]
          | _ => simp [Inline.toNode]
        rw [inlineNodes, loneFormula?, isBlankText_toNode]
        · cases blank : content.isBlank with
          | true =>
              rw [if_pos rfl, ih, displayedAlone?, displayedAlone?,
                List.filter_cons_of_neg (by simp [blank])]
          | false =>
              rw [if_neg Bool.false_ne_true, displayedAlone?,
                List.filter_cons_of_pos (by simp [blank])]
              split
              next formula alone =>
                exact absurd ⟨formula, (List.cons.inj alone).1⟩ isMath
              next => rfl
        · exact other

theorem inlineNodes_accounted (contents : List Inline) :
    Accounted (formulasAll .inline (inlineNodes contents)) (settledFormulas contents)
      (lostFormulas (inlineFormulas contents)) := by
  rw [inlineNodes_formulas]
  exact ⟨rfl, rfl⟩

/-! Paragraphs. -/

theorem formulaInLine_accounted (content : Inline) :
    Accounted ((formulaInLine content.toNode).formulas .inline)
      (content.formulas.map Formula.settled) content.nestedStrays := by
  by_cases isMath : ∃ displayed formula, content = .math displayed formula
  · obtain ⟨displayed, formula, rfl⟩ := isMath
    cases displayed <;> exact ⟨rfl, rfl⟩
  · have same : formulaInLine content.toNode = content.toNode := by
      cases content with
      | math displayed formula => exact absurd ⟨displayed, formula, rfl⟩ isMath
      | _ => rfl
    have strays : content.nestedStrays = lostFormulas content.formulas := by
      cases content with
      | math displayed formula => exact absurd ⟨displayed, formula, rfl⟩ isMath
      | _ => rfl
    rw [same, toNode_formulas, strays]
    exact ⟨rfl, rfl⟩

theorem inParagraph_accounted (contents : List Inline) :
    Accounted (formulasAll .inline ((inlineNodes contents).map formulaInLine))
      (settledFormulas contents) (contents.flatMap Inline.nestedStrays) := by
  induction contents with
  | nil => exact .nil
  | cons content contents ih =>
      have both := (formulaInLine_accounted content).append ih
      rw [settledFormulas, ← List.map_append] at both
      exact both

theorem nestedStrays_alone {contents : List Inline} {formula : Text}
    (alone : displayedAlone? contents = some formula) :
    contents.flatMap Inline.nestedStrays = [] := by
  unfold displayedAlone? at alone
  split at alone
  next other only =>
    rw [List.flatMap_eq_nil_iff]
    intro content member
    cases blank : content.isBlank with
    | true =>
        cases content with
        | text value => rfl
        | softBreak => rfl
        | _ => cases blank
    | false =>
        have kept : content ∈ contents.filter (! ·.isBlank) :=
          List.mem_filter.mpr ⟨member, by simp [blank]⟩
        rw [only, List.mem_singleton] at kept
        rw [kept]
        rfl
  next => cases alone

theorem paragraphNode_eq_blockMath_iff (contents : List Inline) (formula : Text) :
    paragraphNode (inlineNodes contents) = .blockMath formula ↔
      displayedAlone? contents = some formula := by
  rw [paragraphNode, loneFormula?_inlineNodes]
  cases displayedAlone? contents with
  | none => simp
  | some other => simp

theorem paragraphNode_accounted (contents : List Inline) :
    Accounted ((paragraphNode (inlineNodes contents)).formulas .block)
      (Block.paragraph contents).intended (Block.paragraph contents).strays := by
  rw [paragraphNode, loneFormula?_inlineNodes, Block.intended, Block.strays]
  cases alone : displayedAlone? contents with
  | some formula =>
      rw [nestedStrays_alone alone]
      exact ⟨rfl, rfl⟩
  | none => exact inParagraph_accounted contents

/-! Blocks. -/

theorem tableNode_accounted (rows : List (List (List Inline))) :
    Accounted ((tableNode rows).formulas .block) (Block.table rows).intended
      (Block.table rows).strays := by
  have cell (contents : List Inline) :
      Accounted ((Node.tableCell (inlineNodes contents)).formulas .block)
        (settledFormulas contents) (lostFormulas (inlineFormulas contents)) :=
    inlineNodes_accounted contents
  have row (cells : List (List Inline)) := Accounted.flatMap cells cell
  have all := Accounted.flatMap rows row
  have built : (tableNode rows).formulas .block = rows.flatMap fun cells =>
      cells.flatMap fun contents => (Node.tableCell (inlineNodes contents)).formulas .block := by
    simp only [tableNode, Node.formulas, formulasAll_eq, List.flatMap_map]
  rw [built]
  exact all

mutual
theorem toNode_accounted : (block : Block (List Inline)) →
    Accounted (block.toNode.formulas .block) block.intended block.strays
  | .thematicBreak | .code _ _ | .html _ => ⟨rfl, rfl⟩
  | .heading _ contents => inlineNodes_accounted contents
  | .paragraph contents => paragraphNode_accounted contents
  | .table rows => tableNode_accounted rows
  | .quote children | .list _ children | .item children => blockNodes_accounted children

theorem blockNodes_accounted : (blocks : List (Block (List Inline))) →
    Accounted (formulasAll .block (blockNodes blocks)) (intendedAll blocks) (straysAll blocks)
  | [] => .nil
  | block :: blocks => (toNode_accounted block).append (blockNodes_accounted blocks)
end

/-- Formulas keep their order and their position, and a paragraph that is a formula becomes one.
The formulas lost are the displayed ones in headings, in cells and inside other inline content, so
the document has every formula in its intended form exactly where there are none of these. -/
theorem blockNodes_displayMath (blocks : List (Block (List Inline))) :
    let built := formulasAll .block (blockNodes blocks)
    (∀ contents formula, (Block.paragraph contents).toNode = .blockMath formula ↔
        displayedAlone? contents = some formula) ∧
      built.map Formula.settled = intendedAll blocks ∧
      lostFormulas built = straysAll blocks ∧
      (built = intendedAll blocks ↔ straysAll blocks = []) := by
  intro built
  have accounted := blockNodes_accounted blocks
  exact ⟨paragraphNode_eq_blockMath_iff, accounted.settled, accounted.lost, accounted.eq_iff⟩

theorem blockNodes_lostDisplayMath :
    let blocks : List (Block (List Inline)) :=
      [.heading 1 [.text "Energy ", .math true "E"],
        .paragraph [.text "See ", .emphasis [.math true "x"], .text "."]]
    formulasAll .block (blockNodes blocks) ≠ intendedAll blocks ∧
      Markup.blockTexts {} false (blockNodes blocks) {} =
        ["#pagebreak(weak: true)\n= Energy \n\n", "See __.\n\n"].map String.toList := by
  decide

end Compositor.Markdown
