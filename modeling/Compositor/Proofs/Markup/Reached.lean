import Compositor.Proofs.Markup.Visits
import Mathlib.Data.List.Flatten

/-! The nodes that a translation reaches in block position, in order. They are read off the tree
alone: what was set before, and how, has no part in it. -/

namespace Compositor.Markup

mutual
def reached : Node → List Node
  | .list ordered items => .list ordered items :: reachedAll items
  | .listItem children => .listItem children :: reachedInItem children
  | .blockQuote children => .blockQuote children :: reachedAll children
  | node => [node]
  termination_by structural node => node

def reachedAll : List Node → List Node
  | [] => []
  | node :: nodes => reached node ++ reachedAll nodes

/-- A list item sets its own paragraphs and lists, so of these only the items of the lists are
reached. -/
def reachedInItem : List Node → List Node
  | [] => []
  | .paragraph _ :: nodes => reachedInItem nodes
  | .list _ items :: nodes => reachedAll items ++ reachedInItem nodes
  | node :: nodes => reached node ++ reachedInItem nodes
  termination_by structural nodes => nodes
end

def reachedChild : Node → List Node
  | .paragraph _ => []
  | .list _ items => reachedAll items
  | node => reached node

theorem reachedInItem_cons (node : Node) (nodes : List Node) :
    reachedInItem (node :: nodes) = reachedChild node ++ reachedInItem nodes := by
  cases node <;> rfl

theorem reachedAll_eq (nodes : List Node) : reachedAll nodes = nodes.flatMap reached := by
  induction nodes with
  | nil => rfl
  | cons node nodes ih => rw [reachedAll, ih, List.flatMap_cons]

theorem reachedInItem_eq (nodes : List Node) :
    reachedInItem nodes = nodes.flatMap reachedChild := by
  induction nodes with
  | nil => rfl
  | cons node nodes ih => rw [reachedInItem_cons, ih, List.flatMap_cons]

theorem reachedAll_append (first second : List Node) :
    reachedAll (first ++ second) = reachedAll first ++ reachedAll second := by
  induction first with
  | nil => rfl
  | cons node nodes ih => rw [List.cons_append, reachedAll, reachedAll, ih, List.append_assoc]

/-! A translation reaches nodes of the tree, and in the order of the tree. -/

theorem reached_sublist (node : Node) :
    (reached node).Sublist node.preorder ∧ (reachedChild node).Sublist node.preorder := by
  induction node using Node.childInduction with
  | step node ih =>
      rw [Node.preorder_eq, Node.preorderAll_eq]
      have asBlocks : (node.children.flatMap reached).Sublist
          (node.children.flatMap Node.preorder) :=
        List.Sublist.flatMap_right _ fun child member => (ih child member).1
      have asChildren : (node.children.flatMap reachedChild).Sublist
          (node.children.flatMap Node.preorder) :=
        List.Sublist.flatMap_right _ fun child member => (ih child member).2
      have alone : [node].Sublist (node :: node.children.flatMap Node.preorder) := by simp
      cases node with
      | list ordered items =>
          rw [reached, reachedChild, reachedAll_eq]
          exact ⟨asBlocks.cons_cons _, asBlocks.cons _⟩
      | listItem children =>
          have inner : (reached (.listItem children)).Sublist
              (.listItem children :: children.flatMap Node.preorder) := by
            rw [reached, reachedInItem_eq]
            exact asChildren.cons_cons _
          exact ⟨inner, inner⟩
      | blockQuote children =>
          have inner : (reached (.blockQuote children)).Sublist
              (.blockQuote children :: children.flatMap Node.preorder) := by
            rw [reached, reachedAll_eq]
            exact asBlocks.cons_cons _
          exact ⟨inner, inner⟩
      | paragraph children => exact ⟨alone, List.nil_sublist _⟩
      | _ => exact ⟨alone, alone⟩

theorem reachedAll_sublist {first second : List Node} (sub : first.Sublist second) :
    (reachedAll first).Sublist (Node.preorderAll second) := by
  rw [reachedAll_eq, Node.preorderAll_eq]
  have outer := sub.flatMap reached
  exact outer.trans (List.Sublist.flatMap_right _ fun node _ => (reached_sublist node).1)

def Walk.nodes (walk : Walk) : List Node := walk.visits.map (·.node)

variable {setting : Setting} {titleMode : Bool}

theorem walkBlocks_nodes_of (nodes : List Node)
    (each : ∀ node ∈ nodes, ∀ progress,
      (walkBlock setting titleMode node progress).nodes = reached node)
    (progress : Progress) :
    (walkBlocks setting titleMode nodes progress).nodes = reachedAll nodes := by
  induction nodes generalizing progress with
  | nil => rfl
  | cons node nodes ih =>
      have first := each node (.head _) progress
      have rest := ih (fun later member => each later (.tail _ member))
        (walkBlock setting titleMode node progress).progress
      rw [reachedAll, ← first, ← rest]
      exact List.map_append

theorem walkItems_nodes_of (items : List Node)
    (each : ∀ item ∈ items, ∀ progress,
      (walkBlock setting titleMode item progress).nodes = reached item)
    (marker : Char) (progress : Progress) :
    (walkItems setting titleMode marker items progress).nodes = reachedAll items := by
  induction items generalizing progress with
  | nil => rfl
  | cons item items ih =>
      have first := each item (.head _) progress
      have rest := ih (fun later member => each later (.tail _ member))
        (walkBlock setting titleMode item progress).progress
      rw [reachedAll, ← first, ← rest]
      exact List.map_append

theorem walkItem_nodes_of (nodes : List Node)
    (each : ∀ node ∈ nodes, ∀ progress,
      (walkChild setting titleMode node progress).nodes = reachedChild node)
    (content : Text) (progress : Progress) :
    (walkItem setting titleMode content nodes progress).nodes = reachedInItem nodes := by
  induction nodes generalizing content progress with
  | nil => rfl
  | cons node nodes ih =>
      have first := each node (.head _) progress
      have rest := ih (fun later member => each later (.tail _ member))
        (content ++ itemGap content node ++ (walkChild setting titleMode node progress).markup)
        (walkChild setting titleMode node progress).progress
      rw [reachedInItem_cons, walkItem_cons, ← first, ← rest]
      exact List.map_append

theorem walkBlock_nodes (node : Node) :
    (∀ progress, (walkBlock setting titleMode node progress).nodes = reached node) ∧
      ∀ progress, (walkChild setting titleMode node progress).nodes = reachedChild node := by
  induction node using Node.childInduction with
  | step node ih =>
      have eachBlock := fun child member => (ih child member).1
      have eachChild := fun child member => (ih child member).2
      cases node with
      | list ordered items =>
          have inner := walkItems_nodes_of items eachBlock (listMarker ordered)
          exact ⟨fun progress => congrArg _ (inner progress.cleared), inner⟩
      | listItem children =>
          have inner := walkItem_nodes_of children eachChild []
          exact ⟨fun progress => congrArg _ (inner progress),
            fun progress => congrArg _ (inner progress)⟩
      | blockQuote children =>
          have inner := walkBlocks_nodes_of children eachBlock
          exact ⟨fun progress => congrArg _ (inner progress.cleared),
            fun progress => congrArg _ (inner progress.cleared)⟩
      | _ => exact ⟨fun _ => rfl, fun _ => rfl⟩

theorem walkBlocks_nodes (nodes : List Node) (progress : Progress) :
    (walkBlocks setting titleMode nodes progress).nodes = reachedAll nodes :=
  walkBlocks_nodes_of nodes (fun node _ => (walkBlock_nodes node).1) progress

theorem walkGroups_nodes (groups : List Group) (progress : Progress) :
    (walkGroups setting titleMode groups progress).nodes =
      reachedAll (groups.flatMap (·.nodes)) := by
  induction groups generalizing progress with
  | nil => rfl
  | cons group groups ih =>
      have first := @walkBlocks_nodes setting titleMode group.nodes progress
      have rest := ih (walkBlocks setting titleMode group.nodes progress).progress
      rw [List.flatMap_cons, reachedAll_append, ← first, ← rest]
      exact List.map_append

end Compositor.Markup
