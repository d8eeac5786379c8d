import Compositor.Proofs.Markup.Content
import Compositor.Proofs.Markup.HeadingFlag
import Mathlib.Data.List.Induction

/-! Page breaks at the top level of a document. The sibling before a heading decides whether the
heading starts a page, by what it ends in: a list or a quote may end in a heading of its own. So
to look at the kind of the sibling is enough only where none of them does. -/

namespace Compositor.Markup

def isPassedOver : Node → Bool
  | .raw _ | .frontMatter _ => true
  | _ => false

def isSibling (node : Node) : Bool := counts node || isPassedOver node

/-- The last of the nodes apart from raw content and frontmatter. -/
def nearest? (nodes : List Node) : Option Node := (nodes.filter (! isPassedOver ·)).getLast?

def endsInHeading (node : Node) : Bool := headingLast false (reached node)

theorem headingLast_reached {node : Node} (counted : counts node = true) (before : Bool) :
    headingLast before (reached node) = endsInHeading node := by
  have head : ∃ below, reached node = node :: below := by
    cases node <;> exact ⟨_, rfl⟩
  obtain ⟨below, same⟩ := head
  rw [endsInHeading, same, headingLast_cons, headingLast_cons false, headingLast_counted counted,
    headingLast_counted counted]

theorem headingLast_passedOver {node : Node} (passed : isPassedOver node = true) (before : Bool) :
    headingLast before (reached node) = before := by
  cases node with
  | raw html => rfl
  | frontMatter content => rfl
  | _ => cases passed

theorem headingLast_siblings {nodes : List Node} (kinds : ∀ node ∈ nodes, isSibling node = true) :
    headingLast false (reachedAll nodes) = ((nearest? nodes).map endsInHeading).getD false := by
  induction nodes using List.reverseRecOn with
  | nil => rfl
  | append_singleton nodes node ih =>
      have earlier := ih fun other member => kinds other (List.mem_append_left _ member)
      have last : reachedAll [node] = reached node := List.append_nil _
      rw [reachedAll_append, headingLast_append, last, nearest?, List.filter_append]
      cases passed : isPassedOver node with
      | true =>
          rw [headingLast_passedOver passed, earlier, List.filter_cons_of_neg (by simp [passed]),
            List.filter_nil, List.append_nil]
          rfl
      | false =>
          have counted : counts node = true := by
            have sibling := kinds node (List.mem_append_right _ (.head _))
            rwa [isSibling, passed, Bool.or_false] at sibling
          rw [headingLast_reached counted, List.filter_cons_of_pos (by simp [passed]),
            List.filter_nil, List.getLast?_concat]
          rfl

section Documents

variable {setting : Setting} {titleMode : Bool}

theorem progressAfter_flag (nodes : List Node) (progress : Progress) :
    (progressAfter setting titleMode nodes progress).previousWasHeading =
      headingLast progress.previousWasHeading (reachedAll nodes) := by
  have kept := @walk_follows setting titleMode
  have follows := kept.walkBlocks_of nodes (fun node _ => (kept.block_keeps node).1) progress
  have result := walkBlocks_result_of nodes
    (fun node _ => (@walkBlock_result setting titleMode node).1) progress
  rw [blocks_eq] at result
  have final := Follows.final follows
  have walked := @walkBlocks_nodes setting titleMode nodes progress
  rw [Walk.nodes] at walked
  rw [walked] at final
  rw [← final]
  exact congrArg (·.2.previousWasHeading) result.symm

end Documents

/-- Every top-level heading down to the level starts a page, unless the nearest sibling before it
ends in a heading by the measure of `ends`. -/
def BreaksAfter (ends : Node → Bool) (setting : Setting) (titleMode : Bool) (level : UInt8)
    (nodes : List Node) : Prop :=
  ∀ place depth children, (topLevel nodes)[place]? = some (.heading depth children) →
    ∃ text, (blockTexts setting titleMode (topLevel nodes) {})[place]? = some text ∧
      (StartsPage text ↔ depth ≤ level ∧
        ∀ sibling ∈ nearest? ((topLevel nodes).take place), ends sibling = false)

section Siblings

variable {setting : Setting} {level : UInt8} {nodes : List Node}
  (enabled : setting.style.pageBreakLevel = some level)
  (kinds : ∀ node ∈ nodes, isSibling node = true)
include enabled kinds

theorem breaksAfter_endsInHeading (titleMode : Bool) :
    BreaksAfter endsInHeading setting titleMode level nodes := by
  intro place depth children here
  refine ⟨_, (getElem?_blockTexts ..).trans (congrArg (Option.map _) here), ?_⟩
  have before : ∀ node ∈ (topLevel nodes).take place, isSibling node = true := fun node member =>
    kinds node ((List.mem_filter.mp (List.mem_of_mem_take member)).1)
  rw [heading_startsPage_iff, progressAfter_flag, headingLast_siblings before, enabled]
  cases nearest? ((topLevel nodes).take place) with
  | none => simp
  | some sibling => simp

/-- A heading starts a page unless the sibling before it ends in a heading. So it is enough to ask
whether that sibling is a heading if and only if no list or quote before a heading of these depths
ends in one. -/
theorem headings_startPages (titleMode : Bool) :
    Assembled (blockTexts setting titleMode (topLevel nodes) {})
        (body setting titleMode nodes {}).1 ∧
      BreaksAfter endsInHeading setting titleMode level nodes ∧
      (BreaksAfter isHeading setting titleMode level nodes ↔
        ∀ place depth children sibling, (topLevel nodes)[place]? = some (.heading depth children) →
          depth ≤ level → nearest? ((topLevel nodes).take place) = some sibling →
            endsInHeading sibling = isHeading sibling) := by
  have exact := breaksAfter_endsInHeading enabled kinds titleMode
  refine ⟨body_assembled nodes {}, exact, ?_, ?_⟩
  · intro byKind place depth children sibling here shallow nearest
    obtain ⟨text, found, starts⟩ := exact place depth children here
    obtain ⟨other, again, kind⟩ := byKind place depth children here
    obtain rfl := Option.some.inj (found.symm.trans again)
    simp only [nearest, shallow, Option.mem_some_iff, forall_eq', true_and] at starts kind
    rw [starts] at kind
    exact Bool.eq_iff_iff.mpr (by simpa using not_congr kind)
  · intro same place depth children here
    obtain ⟨text, found, starts⟩ := exact place depth children here
    refine ⟨text, found, starts.trans (and_congr_right fun shallow => ?_)⟩
    refine forall₂_congr fun sibling nearest => ?_
    rw [same place depth children sibling here shallow nearest]

end Siblings

theorem headings_startPages_afterQuote :
    let quote : Node := .blockQuote [.heading 3 [.text "Aside"], .paragraph [.text "said"]]
    let nodes : List Node := [.heading 1 [.text "Top"], .frontMatter "title: T", quote,
      .raw "<!-- note -->", .heading 2 [.text "Next"]]
    let setting : Setting := {}
    setting.style.pageBreakLevel = some 2 ∧ (∀ node ∈ nodes, isSibling node = true) ∧
      ∃ text, (blockTexts setting false (topLevel nodes) {})[3]? = some text ∧
        StartsPage text := by
  intro quote nodes setting
  have enabled : setting.style.pageBreakLevel = some 2 := rfl
  have kinds : ∀ node ∈ nodes, isSibling node = true := by decide
  obtain ⟨text, found, starts⟩ := (headings_startPages enabled kinds false).2.1 3 2 _ rfl
  refine ⟨enabled, kinds, text, found, starts.mpr ⟨by decide, ?_⟩⟩
  rintro sibling ⟨⟩
  rfl

/-- The list is no heading and the block set last is a paragraph, but the heading after the list
starts no page. -/
theorem headings_startNoPage_afterList :
    let item : Node := .listItem [.heading 3 [.text "Part"], .paragraph [.text "text"]]
    let nodes : List Node := [.list false [item], .heading 2 [.text "Next"]]
    let setting : Setting := {}
    setting.style.pageBreakLevel = some 2 ∧ (∀ node ∈ nodes, isSibling node = true) ∧
      blockTexts setting false (topLevel nodes) {} =
          ["- === Part\n\n  text\n\n", "== Next\n\n"].map String.toList ∧
        ¬BreaksAfter isHeading setting false 2 nodes := by
  intro item nodes setting
  have texts : blockTexts setting false (topLevel nodes) {} =
      ["- === Part\n\n  text\n\n", "== Next\n\n"].map String.toList := by decide
  refine ⟨rfl, by decide, texts, fun byKind => ?_⟩
  obtain ⟨text, found, kind⟩ := byKind 1 2 _ rfl
  rw [texts] at found
  obtain rfl := Option.some.inj found
  have starts := kind.mpr ⟨by decide, by rintro sibling ⟨⟩; rfl⟩
  exact absurd starts (by decide)

end Compositor.Markup
