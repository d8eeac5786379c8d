import Compositor.Markup.Conversion
import Compositor.Proofs.Markup.HeadingFlag

/-! The title that is found in a document. Whether there is one is read off all headings of the
tree. The walk over the blocks meets only some of these headings, but in the order of the tree; so
it sets one title at most, and no other heading before it. -/

namespace Compositor.Markup

open Node

/-- The form of a title, which is neither numbered nor listed; it may start a page. -/
def InTitleForm (markup : Text) : Prop :=
  ∃ directive content, (directive = [] ∨ directive = "#pagebreak(weak: true)\n".toList) ∧
    markup = directive ++ ("#heading(level: 1, outlined: false)[" ++ content ++ "]\n\n")

theorem headingLine_plain {titleMode : Bool} {depth : UInt8} (plain : ¬(depth = 1 ∧ titleMode))
    (content : Text) :
    ∃ first rest, headingLine titleMode depth content = first :: rest ∧ first ≠ '#' := by
  unfold headingLine
  rw [if_neg plain]
  cases depth.toNat with
  | zero => exact ⟨' ', content ++ "\n\n", rfl, by decide⟩
  | succ count =>
      refine ⟨'=', List.replicate count '=' ++ " " ++ content ++ "\n\n", ?_, by decide⟩
      rw [List.replicate_succ]
      rfl

theorem pageBreak_notTitle {first : Char} (other : first ≠ '#') (breaks : Bool) (rest : Text) :
    ¬InTitleForm (pageBreak breaks ++ first :: rest) := by
  rintro ⟨directive, content, rfl | rfl, same⟩
  · cases breaks <;> simp [pageBreak, other] at same
  · cases breaks <;> simp [pageBreak, other] at same

theorem pageBreak_written (breaks : Bool) :
    pageBreak breaks = [] ∨ pageBreak breaks = "#pagebreak(weak: true)\n".toList := by
  cases breaks with
  | true => exact Or.inr rfl
  | false => exact Or.inl rfl

theorem heading_inTitleForm_iff (setting : Setting) (titleMode : Bool) (depth : UInt8)
    (children : List Node) (progress : Progress) :
    InTitleForm (block setting titleMode (.heading depth children) progress).1 ↔
      titleMode = true ∧ depth = 1 := by
  change InTitleForm (pageBreak (breaksPage setting.style progress depth) ++
    headingLine titleMode depth (inlines children)) ↔ _
  by_cases plain : depth = 1 ∧ titleMode = true
  · refine iff_of_true ?_ ⟨plain.2, plain.1⟩
    refine ⟨_, inlines children, pageBreak_written (breaksPage setting.style progress depth), ?_⟩
    rw [headingLine, if_pos plain]
  · obtain ⟨first, rest, line, other⟩ := headingLine_plain plain (inlines children)
    rw [line]
    refine iff_of_false (pageBreak_notTitle other _ rest) ?_
    rintro ⟨isTitle, top⟩
    exact plain ⟨top, isTitle⟩

/-! The headings of a walk. -/

def Visit.depth? (visit : Visit) : Option UInt8 := visit.node.headingDepth?

def Walk.headings (walk : Walk) : List Visit := walk.visits.filter (isHeading ·.node)

theorem Walk.headings_depths (walk : Walk) :
    walk.headings.filterMap Visit.depth? = walk.nodes.filterMap headingDepth? := by
  rw [headings, nodes, List.filterMap_map, List.filterMap_filter]
  congr 1
  funext visit
  cases node : visit.node <;> simp [node, isHeading, headingDepth?, Visit.depth?]

theorem Walk.exists_depth {walk : Walk} {visit : Visit} (member : visit ∈ walk.headings) :
    ∃ depth children, visit.node = .heading depth children ∧ visit.depth? = some depth := by
  obtain ⟨depth, children, heading⟩ := exists_heading (List.mem_filter.mp member).2
  refine ⟨depth, children, heading, ?_⟩
  rw [Visit.depth?, heading]
  rfl

section Documents

variable {setting : Setting} {titleMode : Bool} {nodes : List Node}

theorem walkBody_sublist (progress : Progress) :
    (walkBody setting titleMode nodes progress).nodes.Sublist (preorderAll nodes) := by
  obtain ⟨spans, divided⟩ := groups_divided setting.style.keepCodeWithPrevious 0 (topLevel nodes)
  have isTop : (topLevel nodes).Sublist nodes := List.filter_sublist
  rw [walkBody, walkGroups_nodes]
  exact reachedAll_sublist (divided.sublist.trans isTop)

theorem walkBody_depths (progress : Progress) :
    ((walkBody setting titleMode nodes progress).headings.filterMap Visit.depth?).Sublist
      (headingDepths nodes) := by
  rw [Walk.headings_depths, headingDepths]
  exact (walkBody_sublist progress).filterMap headingDepth?

theorem walkBody_set {progress : Progress} {visit : Visit}
    (member : visit ∈ (walkBody setting titleMode nodes progress).visits) :
    visit.markup = (block setting titleMode visit.node visit.before).1 := by
  obtain ⟨earlier, later, split⟩ := List.append_of_mem member
  have follows := (@walk_follows setting titleMode).body_keeps nodes progress
  rw [Walk.Keeps, split] at follows
  exact follows.at.2

end Documents

/-! A depth that stands first and only once also does so in what is left of the list. -/

theorem hasTitle_depths {nodes : List Node} (titled : hasTitle nodes = true) :
    ∃ rest, headingDepths nodes = 1 :: rest ∧ 1 ∉ rest := by
  simp only [hasTitle, Bool.and_eq_true, beq_iff_eq] at titled
  obtain ⟨once, first⟩ := titled
  cases depths : headingDepths nodes with
  | nil => simp [depths] at first
  | cons depth rest =>
      rw [depths] at once first
      obtain rfl := Option.some.inj first
      rw [List.count_cons_self] at once
      refine ⟨rest, rfl, ?_⟩
      exact List.count_eq_zero.mp (by omega)

theorem first_of_sublist {depth : UInt8} {rest earlier later : List UInt8} (fresh : depth ∉ rest)
    (sub : (earlier ++ depth :: later).Sublist (depth :: rest)) :
    earlier = [] ∧ depth ∉ later := by
  cases earlier with
  | nil =>
      have below := List.cons_sublist_cons.mp sub
      exact ⟨rfl, fun member => fresh (below.subset member)⟩
  | cons first earlier =>
      have below : (earlier ++ depth :: later).Sublist rest := sub.tail
      have member : depth ∈ earlier ++ depth :: later := by simp
      exact absurd (below.subset member) fresh

theorem title_first {nodes : List Node} {walk : Walk}
    (depths : (walk.headings.filterMap Visit.depth?).Sublist (headingDepths nodes))
    (titled : hasTitle nodes = true) {earlier later : List Visit} {title : Visit}
    (split : walk.headings = earlier ++ title :: later) (top : title.depth? = some 1) :
    earlier = [] ∧ ∀ other ∈ later, other.depth? ≠ some 1 := by
  obtain ⟨rest, all, fresh⟩ := hasTitle_depths titled
  rw [all, split, List.filterMap_append, List.filterMap_cons_some top] at depths
  obtain ⟨noneBefore, noneBehind⟩ := first_of_sublist fresh depths
  constructor
  · cases earlier with
    | nil => rfl
    | cons before earlier =>
        have member : before ∈ walk.headings := by simp [split]
        obtain ⟨depth, children, -, deep⟩ := walk.exists_depth member
        rw [List.filterMap_cons_some deep] at noneBefore
        cases noneBefore
  · intro other member deep
    exact noneBehind (List.mem_filterMap.mpr ⟨other, member, deep⟩)

structure OneTitle (setting : Setting) (nodes : List Node) (walk : Walk) : Prop where
  set : ∀ visit ∈ walk.headings, visit.markup =
    (block setting (setting.style.titleMode nodes) visit.node visit.before).1
  depths : (walk.headings.filterMap Visit.depth?).Sublist (headingDepths nodes)
  form : ∀ visit ∈ walk.headings, InTitleForm visit.markup ↔
    hasTitle nodes = true ∧ visit.depth? = some 1
  -- No heading stands before the title, and no other one is set like it.
  first : ∀ earlier title later, walk.headings = earlier ++ title :: later →
    InTitleForm title.markup →
      earlier = [] ∧ ∀ other ∈ later, ¬InTitleForm other.markup ∧ other.depth? ≠ some 1
  untitled : hasTitle nodes = false → ∀ visit ∈ walk.headings, ¬InTitleForm visit.markup

/-- A document that decides for itself whether it has a title sets one at most, as the first of its
headings and the only one of depth one. -/
theorem convert_oneTitle {setting : Setting} (auto : setting.style.topLevelTitle = .auto)
    (nodes : List Node) :
    let titleMode := setting.style.titleMode nodes
    let walk := walkBody setting titleMode nodes {}
    (convert setting nodes).markup =
        preamble setting.toPlaces setting.style titleMode ++ walk.markup ∧
      OneTitle setting nodes walk := by
  intro titleMode walk
  have decides : titleMode = hasTitle nodes := by
    simp only [titleMode, DocumentStyle.titleMode, auto]
  have walked : walk.markup = (body setting titleMode nodes {}).1 :=
    congrArg Prod.fst (walkBody_result nodes {})
  have depths : (walk.headings.filterMap Visit.depth?).Sublist (headingDepths nodes) :=
    walkBody_depths {}
  have set (visit : Visit) (member : visit ∈ walk.headings) :
      visit.markup = (block setting titleMode visit.node visit.before).1 :=
    walkBody_set (List.mem_filter.mp member).1
  have form (visit : Visit) (member : visit ∈ walk.headings) :
      InTitleForm visit.markup ↔ hasTitle nodes = true ∧ visit.depth? = some 1 := by
    obtain ⟨depth, children, heading, deep⟩ := walk.exists_depth member
    rw [set visit member, heading, heading_inTitleForm_iff, decides, deep, Option.some_inj]
  refine ⟨?_, set, depths, form, ?_, ?_⟩
  · rw [walked]
    rfl
  · intro earlier title later split isTitle
    obtain ⟨titled, top⟩ := (form title (by simp [split])).mp isTitle
    obtain ⟨noneBefore, deeper⟩ := title_first depths titled split top
    refine ⟨noneBefore, fun other member => ?_⟩
    have among : other ∈ walk.headings := by simp [split, member]
    have deep := deeper other member
    exact ⟨fun again => deep ((form other among).mp again).2, deep⟩
  · intro untitled visit member isTitle
    have titled := ((form visit member).mp isTitle).1
    rw [untitled] at titled
    cases titled

theorem convert_oneTitle_quotedTitle :
    let item : Node := .listItem [.paragraph [.text "a"], .heading 2 [.text "Part"]]
    let nodes : List Node := [.raw "<!-- keep-together -->",
      .blockQuote [.heading 1 [.text "Title"]], .list false [item], .raw "<!-- /keep-together -->",
      .paragraph [.emphasis [.heading 3 [.text "Lost"]]], .heading 2 [.text "Next"]]
    let setting : Setting := {}
    let walk := walkBody setting (setting.style.titleMode nodes) nodes {}
    setting.style.topLevelTitle = .auto ∧ headingDepths nodes = [1, 2, 3, 2] ∧
      walk.headings.filterMap Visit.depth? = [1, 2, 2] ∧
        ∃ title later, walk.headings = title :: later ∧ InTitleForm title.markup ∧
          ∀ other ∈ later, ¬InTitleForm other.markup ∧ other.depth? ≠ some 1 := by
  intro item nodes setting walk
  have auto : setting.style.topLevelTitle = .auto := rfl
  have title := (convert_oneTitle auto nodes).2
  have depths : walk.headings.filterMap Visit.depth? = [1, 2, 2] := by decide +kernel
  refine ⟨auto, by decide, depths, ?_⟩
  cases headings : walk.headings with
  | nil => simp [headings] at depths
  | cons first later =>
      have member : first ∈ walk.headings := by simp [headings]
      obtain ⟨depth, children, -, deep⟩ := walk.exists_depth member
      rw [headings, List.filterMap_cons_some deep] at depths
      obtain ⟨rfl, -⟩ := List.cons.inj depths
      have isTitle : InTitleForm first.markup := (title.form first member).mpr ⟨by decide, deep⟩
      exact ⟨first, later, rfl, isTitle, (title.first [] first later headings isTitle).2⟩

end Compositor.Markup
