import Compositor.Proofs.Document.Tree

/-! Documents whose code stands outermost or below quotes, lists and list items alone. -/

namespace Compositor.Node

def hasNoCode (node : Node) : Bool := (preorder node).all (! ·.isCodeBlock)

mutual
/-- Whether all code of the node stands below quotes, lists and list items alone. -/
def codePlaced : Node → Bool
  | .codeBlock _ _ => true
  | .blockQuote children => codePlacedAll children
  | .list _ items => codePlacedAll items
  | .listItem children => codePlacedAll children
  | node => hasNoCode node

def codePlacedAll : List Node → Bool
  | [] => true
  | node :: nodes => codePlaced node && codePlacedAll nodes
end

theorem codePlacedAll_iff (nodes : List Node) :
    codePlacedAll nodes = true ↔ ∀ node ∈ nodes, codePlaced node = true := by
  induction nodes with
  | nil => simp [codePlacedAll]
  | cons node nodes ih => simp [codePlacedAll, ih]

theorem codePlacedAll_append (first second : List Node) :
    codePlacedAll (first ++ second) = (codePlacedAll first && codePlacedAll second) := by
  induction first with
  | nil => rfl
  | cons node nodes ih => simp only [List.cons_append, codePlacedAll, ih, Bool.and_assoc]

def hasNoCodeAll (nodes : List Node) : Bool := (preorderAll nodes).all (! ·.isCodeBlock)

theorem hasNoCodeAll_cons (node : Node) (nodes : List Node) :
    hasNoCodeAll (node :: nodes) = (hasNoCode node && hasNoCodeAll nodes) := by
  simp only [hasNoCodeAll, hasNoCode, preorderAll, List.all_append]

theorem hasNoCode_eq (node : Node) :
    hasNoCode node = (!node.isCodeBlock && hasNoCodeAll node.children) := by
  rw [hasNoCode, preorder_eq, List.all_cons]
  rfl

def diagramSources (nodes : List Node) : List Text := (preorderAll nodes).filterMap diagramSource?

theorem diagramSources_append (first second : List Node) :
    diagramSources (first ++ second) = diagramSources first ++ diagramSources second := by
  simp only [diagramSources, preorderAll_append, List.filterMap_append]

theorem diagramSources_cons (node : Node) (nodes : List Node) :
    diagramSources (node :: nodes) =
      node.diagramSource?.toList ++ diagramSources node.children ++ diagramSources nodes := by
  simp only [diagramSources, preorderAll, preorder_eq, List.filterMap_append, List.filterMap_cons]
  cases node.diagramSource? <;> rfl

theorem diagramSources_of_hasNoCodeAll {nodes : List Node} (noCode : hasNoCodeAll nodes = true) :
    diagramSources nodes = [] := by
  rw [diagramSources, List.filterMap_eq_nil_iff]
  intro node member
  have isOther := List.all_eq_true.mp noCode node member
  cases node with
  | codeBlock language code => simp [isCodeBlock] at isOther
  | _ => rfl

end Compositor.Node
