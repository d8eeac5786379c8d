import Compositor.Document.Node

/-! The formulas of a document in document order, each with its position. A formula set apart that
stands in a line, below a paragraph, heading or cell, has no markup there and is lost. -/

namespace Compositor

inductive Position where
  | block
  | inline
  deriving DecidableEq

structure Formula where
  position : Position
  displayed : Bool
  text : Text
  deriving DecidableEq

def Formula.isLost (formula : Formula) : Bool := formula.displayed && formula.position = .inline

def Formula.settled (formula : Formula) : Formula :=
  match formula.position with
  | .block => formula
  | .inline => { formula with displayed := false }

namespace Node

mutual
def formulas (position : Position) : Node → List Formula
  | .blockMath formula => [⟨position, true, formula⟩]
  | .inlineMath formula => [⟨position, false, formula⟩]
  | .heading _ children | .paragraph children | .tableCell children | .emphasis children
  | .strong children | .strikethrough children | .link _ children => formulasAll .inline children
  | .document children | .list _ children | .listItem children | .blockQuote children
  | .table children | .tableRow children => formulasAll position children
  | .text _ | .inlineCode _ | .codeBlock _ _ | .image _ _ | .thematicBreak | .lineBreak | .raw _
  | .frontMatter _ => []

def formulasAll (position : Position) : List Node → List Formula
  | [] => []
  | node :: nodes => formulas position node ++ formulasAll position nodes
end

end Node

theorem Node.formulasAll_eq (position : Position) (nodes : List Node) :
    formulasAll position nodes = nodes.flatMap (formulas position) := by
  induction nodes with
  | nil => rfl
  | cons node nodes ih => rw [formulasAll, ih, List.flatMap_cons]

def lostFormulas (formulas : List Formula) : List Text :=
  (formulas.filter Formula.isLost).map (·.text)

theorem lostFormulas_append (first second : List Formula) :
    lostFormulas (first ++ second) = lostFormulas first ++ lostFormulas second := by
  rw [lostFormulas, List.filter_append, List.map_append]
  rfl

theorem settled_eq_self_iff (formula : Formula) :
    formula.settled = formula ↔ formula.isLost = false := by
  obtain ⟨position, displayed, text⟩ := formula
  cases position <;> cases displayed <;> simp [Formula.settled, Formula.isLost]

theorem map_settled_eq_self_iff (formulas : List Formula) :
    formulas.map Formula.settled = formulas ↔ lostFormulas formulas = [] := by
  induction formulas with
  | nil => exact iff_of_true rfl rfl
  | cons formula formulas ih =>
      rw [List.map_cons, List.cons.injEq, settled_eq_self_iff, ih]
      cases lost : formula.isLost <;> simp [lostFormulas, lost]

/-- The formulas built are the intended ones, but for the form of those that are lost. -/
structure Accounted (built intended : List Formula) (lost : List Text) : Prop where
  settled : built.map Formula.settled = intended
  lost : lostFormulas built = lost

namespace Accounted

theorem nil : Accounted [] [] [] := ⟨rfl, rfl⟩

theorem append {built more intended further : List Formula} {lost missing : List Text}
    (first : Accounted built intended lost) (second : Accounted more further missing) :
    Accounted (built ++ more) (intended ++ further) (lost ++ missing) where
  settled := by rw [List.map_append, first.settled, second.settled]
  lost := by rw [lostFormulas_append, first.lost, second.lost]

theorem flatMap {Item : Type} {built intended : Item → List Formula} {lost : Item → List Text}
    (items : List Item) (each : ∀ item, Accounted (built item) (intended item) (lost item)) :
    Accounted (items.flatMap built) (items.flatMap intended) (items.flatMap lost) := by
  induction items with
  | nil => exact nil
  | cons item items ih =>
      simp only [List.flatMap_cons]
      exact (each item).append ih

theorem eq_iff {built intended : List Formula} {lost : List Text}
    (accounted : Accounted built intended lost) : built = intended ↔ lost = [] := by
  rw [← accounted.settled, ← accounted.lost, eq_comm, map_settled_eq_self_iff]

end Accounted
end Compositor
