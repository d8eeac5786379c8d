import Compositor.Proofs.Document.Tree
import Compositor.Proofs.Markup.Division

/-! The visits of a translation: the nodes in block position, in the order in which it reaches
them. A walk that records its visits gives the same markup and progress as the markup of blocks. -/

namespace Compositor.Markup

/-- A node reached in block position, with the progress so far and the markup that came of it. -/
structure Visit where
  node : Node
  before : Progress
  markup : Text

structure Walk where
  markup : Text
  progress : Progress
  visits : List Visit

namespace Walk

def result (walk : Walk) : Text × Progress := (walk.markup, walk.progress)

def enter (node : Node) (before : Progress) (markup : Text) (inner : Walk) : Walk :=
  ⟨markup, inner.progress, ⟨node, before, markup⟩ :: inner.visits⟩

end Walk

mutual
def walkBlock (setting : Setting) (titleMode : Bool) : Node → Progress → Walk
  | .list ordered items, progress =>
      let inner := walkItems setting titleMode (listMarker ordered) items progress.cleared
      inner.enter (.list ordered items) progress (inner.markup ++ "\n")
  | .listItem children, progress =>
      let inner := walkItem setting titleMode [] children progress
      inner.enter (.listItem children) progress (indentRest (Text.trim inner.markup) ++ "\n")
  | .blockQuote children, progress =>
      let inner := walkBlocks setting titleMode children progress.cleared
      inner.enter (.blockQuote children) progress ("#quote[\n" ++ inner.markup ++ "]\n\n")
  | node, progress =>
      let (markup, after) := block setting titleMode node progress
      ⟨markup, after, [⟨node, progress, markup⟩]⟩
  termination_by structural node => node

def walkBlocks (setting : Setting) (titleMode : Bool) : List Node → Progress → Walk
  | [], progress => ⟨[], progress, []⟩
  | node :: nodes, progress =>
      let first := walkBlock setting titleMode node progress
      let rest := walkBlocks setting titleMode nodes first.progress
      ⟨first.markup ++ rest.markup, rest.progress, first.visits ++ rest.visits⟩

def walkItems (setting : Setting) (titleMode : Bool) (marker : Char) : List Node → Progress → Walk
  | [], progress => ⟨[], progress, []⟩
  | item :: items, progress =>
      let first := walkBlock setting titleMode item progress
      let rest := walkItems setting titleMode marker items first.progress
      ⟨marker :: ' ' :: first.markup ++ rest.markup, rest.progress, first.visits ++ rest.visits⟩

/-- The paragraphs and lists of an item are set by the item itself, without a visit. -/
def walkItem (setting : Setting) (titleMode : Bool) : (content : Text) → List Node → Progress → Walk
  | content, [], progress => ⟨content, progress, []⟩
  | content, .paragraph children :: nodes, progress =>
      walkItem setting titleMode (content ++ itemBreak content ++ inlines children) nodes progress
  | content, .list ordered items :: nodes, progress =>
      let inner := walkItems setting titleMode (listMarker ordered) items progress
      let rest := walkItem setting titleMode (content ++ "\n" ++ inner.markup ++ "\n") nodes
        inner.progress
      ⟨rest.markup, rest.progress, inner.visits ++ rest.visits⟩
  | content, node :: nodes, progress =>
      let inner := walkBlock setting titleMode node progress
      let rest := walkItem setting titleMode (content ++ itemBreak content ++ inner.markup) nodes
        inner.progress
      ⟨rest.markup, rest.progress, inner.visits ++ rest.visits⟩
  termination_by structural _ nodes => nodes
end

def walkGroups (setting : Setting) (titleMode : Bool) : List Group → Progress → Walk
  | [], progress => ⟨[], progress, []⟩
  | group :: groups, progress =>
      let first := walkBlocks setting titleMode group.nodes progress
      let rest := walkGroups setting titleMode groups first.progress
      ⟨group.wrap first.markup ++ rest.markup, rest.progress, first.visits ++ rest.visits⟩

def walkBody (setting : Setting) (titleMode : Bool) (nodes : List Node) (progress : Progress) :
    Walk :=
  walkGroups setting titleMode (groups setting.style.keepCodeWithPrevious (topLevel nodes)) progress

section Equations

variable (setting : Setting) (titleMode : Bool)

def walkChild : Node → Progress → Walk
  | .paragraph children, progress => ⟨inlines children, progress, []⟩
  | .list ordered items, progress =>
      let inner := walkItems setting titleMode (listMarker ordered) items progress
      ⟨inner.markup ++ "\n", inner.progress, inner.visits⟩
  | node, progress => walkBlock setting titleMode node progress

theorem walkItem_cons (content : Text) (node : Node) (nodes : List Node) (progress : Progress) :
    walkItem setting titleMode content (node :: nodes) progress =
      let child := walkChild setting titleMode node progress
      let rest := walkItem setting titleMode (content ++ itemGap content node ++ child.markup) nodes
        child.progress
      ⟨rest.markup, rest.progress, child.visits ++ rest.visits⟩ := by
  cases node with
  | list ordered items => simp only [walkItem, walkChild, itemGap, List.append_assoc]
  | paragraph children => rfl
  | _ => rfl

def isContainer : Node → Bool
  | .list _ _ | .listItem _ | .blockQuote _ => true
  | _ => false

theorem walkBlock_leaf {node : Node} (leaf : isContainer node = false) (progress : Progress) :
    walkBlock setting titleMode node progress =
      ⟨(block setting titleMode node progress).1, (block setting titleMode node progress).2,
        [⟨node, progress, (block setting titleMode node progress).1⟩]⟩ := by
  cases node <;> first | rfl | simp [isContainer] at leaf

end Equations

/-! A walk and the markup of blocks agree. -/

section Result

variable {setting : Setting} {titleMode : Bool}

theorem walkBlocks_result_of (nodes : List Node)
    (each : ∀ node ∈ nodes, ∀ progress,
      (walkBlock setting titleMode node progress).result = block setting titleMode node progress)
    (progress : Progress) :
    (walkBlocks setting titleMode nodes progress).result =
      blocks setting titleMode nodes progress := by
  induction nodes generalizing progress with
  | nil => rfl
  | cons node nodes ih =>
      have first := each node (.head _) progress
      have rest := ih (fun later member => each later (.tail _ member))
        (walkBlock setting titleMode node progress).progress
      simp only [Walk.result] at first rest ⊢
      simp only [walkBlocks, blocks, ← first, ← rest]

theorem walkItems_result_of (items : List Node)
    (each : ∀ node ∈ items, ∀ progress,
      (walkBlock setting titleMode node progress).result = block setting titleMode node progress)
    (marker : Char) (progress : Progress) :
    (walkItems setting titleMode marker items progress).result =
      listItems setting titleMode marker items progress := by
  induction items generalizing progress with
  | nil => rfl
  | cons item items ih =>
      have first := each item (.head _) progress
      have rest := ih (fun later member => each later (.tail _ member))
        (walkBlock setting titleMode item progress).progress
      simp only [Walk.result] at first rest ⊢
      simp only [walkItems, listItems, ← first, ← rest]

theorem walkItem_result_of (nodes : List Node)
    (each : ∀ node ∈ nodes, ∀ progress,
      (walkChild setting titleMode node progress).result =
        itemChild setting titleMode node progress)
    (content : Text) (progress : Progress) :
    (walkItem setting titleMode content nodes progress).result =
      itemContent setting titleMode content nodes progress := by
  induction nodes generalizing content progress with
  | nil => rfl
  | cons node nodes ih =>
      have child := each node (.head _) progress
      rw [itemContent_cons, ← child, walkItem_cons]
      exact ih (fun later member => each later (.tail _ member)) _ _

theorem walkBlock_result (node : Node) :
    (∀ progress, (walkBlock setting titleMode node progress).result =
        block setting titleMode node progress) ∧
      ∀ progress, (walkChild setting titleMode node progress).result =
        itemChild setting titleMode node progress := by
  induction node using Node.childInduction with
  | step node ih =>
      have eachBlock := fun child member => (ih child member).1
      have eachChild := fun child member => (ih child member).2
      cases node with
      | list ordered items =>
          have same := walkItems_result_of items eachBlock (listMarker ordered)
          constructor
          · intro progress
            rw [block_list, list, ← same]
            rfl
          · intro progress
            rw [itemChild, list, ← same]
            rfl
      | listItem children =>
          have same (progress : Progress) :
              (walkBlock setting titleMode (.listItem children) progress).result =
                block setting titleMode (.listItem children) progress := by
            rw [block_listItem, ← walkItem_result_of children eachChild []]
            rfl
          exact ⟨same, same⟩
      | blockQuote children =>
          have same (progress : Progress) :
              (walkBlock setting titleMode (.blockQuote children) progress).result =
                block setting titleMode (.blockQuote children) progress := by
            rw [block_blockQuote, ← walkBlocks_result_of children eachBlock]
            rfl
          exact ⟨same, same⟩
      | _ => exact ⟨fun _ => rfl, fun _ => rfl⟩

theorem walkGroups_result (groups : List Group) (progress : Progress) :
    (walkGroups setting titleMode groups progress).result =
      groupsMarkup setting titleMode groups progress := by
  induction groups generalizing progress with
  | nil => rfl
  | cons group groups ih =>
      have first := walkBlocks_result_of group.nodes
        (fun node _ => (@walkBlock_result setting titleMode node).1)
        progress
      have rest := ih (walkBlocks setting titleMode group.nodes progress).progress
      simp only [Walk.result] at first rest ⊢
      simp only [walkGroups, groupsMarkup, Group.markup, ← first, ← rest]

theorem walkBody_result (nodes : List Node) (progress : Progress) :
    (walkBody setting titleMode nodes progress).result = body setting titleMode nodes progress :=
  walkGroups_result _ progress

end Result

/-! What a single visit keeps, and what passes from the visits below a container to the container,
holds of every walk. -/

def entered : Node → Progress → Progress
  | .listItem _, progress => progress
  | _, progress => progress.cleared

abbrev WalkProperty := List Node → Progress → List Visit → Progress → Prop

structure WalkInvariant (setting : Setting) (titleMode : Bool) (Holds : WalkProperty) : Prop where
  nil : ∀ progress, Holds [] progress [] progress
  append : ∀ {earlier later start first middle second final}, Holds earlier start first middle →
    Holds later middle second final → Holds (earlier ++ later) start (first ++ second) final
  leaf : ∀ node progress, isContainer node = false →
    Holds [node] progress [⟨node, progress, (block setting titleMode node progress).1⟩]
      (block setting titleMode node progress).2
  enter : ∀ node progress visits final, isContainer node = true →
    Holds node.children (entered node progress) visits final →
      Holds [node] progress (⟨node, progress, (block setting titleMode node progress).1⟩ :: visits)
        final
  itemParagraph : ∀ children progress, Holds [.paragraph children] progress [] progress
  itemList : ∀ ordered items progress visits final, Holds items progress visits final →
    Holds [.list ordered items] progress visits final

def Walk.Keeps (Holds : WalkProperty) (nodes : List Node) (start : Progress) (walk : Walk) : Prop :=
  Holds nodes start walk.visits walk.progress

namespace WalkInvariant

variable {setting : Setting} {titleMode : Bool} {Holds : WalkProperty}
  (kept : WalkInvariant setting titleMode Holds)
include kept

theorem walkBlocks_of (nodes : List Node)
    (each : ∀ node ∈ nodes, ∀ progress,
      (walkBlock setting titleMode node progress).Keeps Holds [node] progress)
    (progress : Progress) :
    (walkBlocks setting titleMode nodes progress).Keeps Holds nodes progress := by
  induction nodes generalizing progress with
  | nil => exact kept.nil progress
  | cons node nodes ih =>
      exact kept.append (each node (.head _) progress)
        (ih (fun later member => each later (.tail _ member)) _)

theorem walkItems_of (items : List Node)
    (each : ∀ node ∈ items, ∀ progress,
      (walkBlock setting titleMode node progress).Keeps Holds [node] progress)
    (marker : Char) (progress : Progress) :
    (walkItems setting titleMode marker items progress).Keeps Holds items progress := by
  induction items generalizing progress with
  | nil => exact kept.nil progress
  | cons item items ih =>
      exact kept.append (each item (.head _) progress)
        (ih (fun later member => each later (.tail _ member)) _)

theorem walkItem_of (nodes : List Node)
    (each : ∀ node ∈ nodes, ∀ progress,
      (walkChild setting titleMode node progress).Keeps Holds [node] progress)
    (content : Text) (progress : Progress) :
    (walkItem setting titleMode content nodes progress).Keeps Holds nodes progress := by
  induction nodes generalizing content progress with
  | nil => exact kept.nil progress
  | cons node nodes ih =>
      rw [walkItem_cons]
      exact kept.append (each node (.head _) progress)
        (ih (fun later member => each later (.tail _ member)) _ _)

theorem enter_of {node : Node} (container : isContainer node = true) (progress : Progress)
    (markup : Text) (inner : Walk)
    (same : walkBlock setting titleMode node progress = inner.enter node progress markup)
    (holds : inner.Keeps Holds node.children (entered node progress)) :
    (walkBlock setting titleMode node progress).Keeps Holds [node] progress := by
  have result := (@walkBlock_result setting titleMode node).1 progress
  rw [same] at result ⊢
  have written : markup = (block setting titleMode node progress).1 := congrArg Prod.fst result
  rw [written]
  exact kept.enter node progress inner.visits inner.progress container holds

theorem block_keeps (node : Node) :
    (∀ progress, (walkBlock setting titleMode node progress).Keeps Holds [node] progress) ∧
      ∀ progress, (walkChild setting titleMode node progress).Keeps Holds [node] progress := by
  induction node using Node.childInduction with
  | step node ih =>
      have eachBlock := fun child member => (ih child member).1
      have eachChild := fun child member => (ih child member).2
      have leaf (isLeaf : isContainer node = false) (progress : Progress) :
          (walkBlock setting titleMode node progress).Keeps Holds [node] progress := by
        rw [walkBlock_leaf _ _ isLeaf]
        exact kept.leaf node progress isLeaf
      cases node with
      | list ordered items =>
          have inner := kept.walkItems_of items eachBlock (listMarker ordered)
          exact ⟨fun progress => kept.enter_of rfl progress _ _ rfl (inner progress.cleared),
            fun progress => kept.itemList ordered items progress _ _ (inner progress)⟩
      | listItem children =>
          have inner := kept.walkItem_of children eachChild []
          have holds (progress : Progress) : (walkBlock setting titleMode (.listItem children)
              progress).Keeps Holds [.listItem children] progress :=
            kept.enter_of rfl progress _ _ rfl (inner progress)
          exact ⟨holds, holds⟩
      | blockQuote children =>
          have inner := kept.walkBlocks_of children eachBlock
          have holds (progress : Progress) : (walkBlock setting titleMode (.blockQuote children)
              progress).Keeps Holds [.blockQuote children] progress :=
            kept.enter_of rfl progress _ _ rfl (inner progress.cleared)
          exact ⟨holds, holds⟩
      | paragraph children => exact ⟨leaf rfl, kept.itemParagraph children⟩
      | _ => exact ⟨leaf rfl, leaf rfl⟩

theorem groups_keep (groups : List Group) (progress : Progress) :
    (walkGroups setting titleMode groups progress).Keeps Holds (groups.flatMap (·.nodes))
      progress := by
  induction groups generalizing progress with
  | nil => exact kept.nil progress
  | cons group groups ih =>
      exact kept.append
        (kept.walkBlocks_of group.nodes (fun node _ => (kept.block_keeps node).1) progress) (ih _)

theorem body_keeps (nodes : List Node) (progress : Progress) :
    (walkBody setting titleMode nodes progress).Keeps Holds
      ((groups setting.style.keepCodeWithPrevious (topLevel nodes)).flatMap (·.nodes)) progress :=
  kept.groups_keep _ progress

end WalkInvariant

end Compositor.Markup
