import Compositor.Document.Outline

/-! Induction on document trees: what passes from all children of a node to the node holds of every
node. The nodes below several trees are those below each of them in turn. -/

namespace Compositor.Node

theorem sizeOf_child {node child : Node} (member : child ∈ node.children) :
    sizeOf child < sizeOf node := by
  cases node <;> simp only [children, List.not_mem_nil] at member
  all_goals
    have smaller := List.sizeOf_lt_of_mem member
    simp only [document.sizeOf_spec, heading.sizeOf_spec, paragraph.sizeOf_spec,
      emphasis.sizeOf_spec, strong.sizeOf_spec, strikethrough.sizeOf_spec, link.sizeOf_spec,
      list.sizeOf_spec, listItem.sizeOf_spec, blockQuote.sizeOf_spec, table.sizeOf_spec,
      tableRow.sizeOf_spec, tableCell.sizeOf_spec]
    omega

@[elab_as_elim]
theorem childInduction {motive : Node → Prop}
    (step : ∀ node, (∀ child ∈ node.children, motive child) → motive node) (node : Node) :
    motive node :=
  step node fun child member =>
    have := sizeOf_child member
    childInduction step child
termination_by sizeOf node

theorem preorderAll_eq (nodes : List Node) : preorderAll nodes = nodes.flatMap preorder := by
  induction nodes with
  | nil => rfl
  | cons node nodes ih => rw [preorderAll, ih, List.flatMap_cons]

theorem preorderAll_append (first second : List Node) :
    preorderAll (first ++ second) = preorderAll first ++ preorderAll second := by
  simp only [preorderAll_eq, List.flatMap_append]

end Compositor.Node
