import Mathlib.Data.List.Nodup
import Compositor.Proofs.Markdown.CodePlacement
import Compositor.Proofs.Markup.Visits

/-! The diagram blocks that a walk meets are the ones that the outline of the document collects, in
the same order, and each of them shows the image of its own place. -/

namespace Compositor.Markup

open Node

section Turns

variable (setting : Setting) (titleMode : Bool)

def Visit.isDiagram (visit : Visit) : Bool := visit.node.diagramSource?.isSome

def nextCursor (cursor : Nat) : Nat :=
  if cursor < setting.diagrams.length then cursor + 1 else cursor

def diagramAt (place : Nat) : Text :=
  match setting.diagrams[place]? with
  | some diagram =>
      "#figure(\n  image(\"" ++ Path.relativeTo diagram.image setting.output ++
        "\", width: 80%),\n)\n\n"
  | none => []

/-- Diagrams are set in turn from `cursor` on, and nothing else moves the cursor. -/
inductive InTurn : (cursor : Nat) → List Visit → (final : Nat) → Prop
  | nil (cursor) : InTurn cursor [] cursor
  | diagram (visit) {visits final} (isDiagram : visit.isDiagram = true)
      (shown : visit.markup = diagramAt setting visit.before.diagramCursor)
      (rest : InTurn (nextCursor setting visit.before.diagramCursor) visits final) :
      InTurn visit.before.diagramCursor (visit :: visits) final
  | other {cursor visit visits final} (isOther : visit.isDiagram = false)
      (rest : InTurn cursor visits final) : InTurn cursor (visit :: visits) final

variable {setting titleMode}

theorem InTurn.append {cursor middle final : Nat} {first second : List Visit}
    (earlier : InTurn setting cursor first middle) (later : InTurn setting middle second final) :
    InTurn setting cursor (first ++ second) final := by
  induction earlier with
  | nil => exact later
  | diagram visit isDiagram shown rest ih => exact .diagram visit isDiagram shown (ih later)
  | other isOther rest ih => exact .other isOther (ih later)

theorem codeBlock_diagram (setting : Setting) (code : Text) (progress : Progress) :
    (codeBlock setting (some diagramLanguage) code progress).1 =
        diagramAt setting progress.diagramCursor ∧
      (codeBlock setting (some diagramLanguage) code progress).2.diagramCursor =
        nextCursor setting progress.diagramCursor := by
  simp only [codeBlock, if_true, diagramAt, nextCursor]
  cases found : setting.diagrams[progress.diagramCursor]? with
  | some diagram =>
      obtain ⟨below, -⟩ := List.getElem?_eq_some_iff.mp found
      exact ⟨rfl, (if_pos below).symm⟩
  | none =>
      have behind := List.getElem?_eq_none_iff.mp found
      exact ⟨rfl, (if_neg (Nat.not_lt.mpr behind)).symm⟩

theorem leaf_inTurn {node : Node} (leaf : isContainer node = false) (progress : Progress) :
    InTurn setting progress.diagramCursor
      [⟨node, progress, (block setting titleMode node progress).1⟩]
      (block setting titleMode node progress).2.diagramCursor := by
  cases node with
  | codeBlock language code =>
      change InTurn setting progress.diagramCursor
        [⟨_, progress, (codeBlock setting language code progress.cleared).1⟩]
        (codeBlock setting language code progress.cleared).2.diagramCursor
      by_cases isDiagram : language = some diagramLanguage
      · subst isDiagram
        obtain ⟨shown, next⟩ := codeBlock_diagram setting code progress.cleared
        rw [next]
        exact .diagram ⟨_, progress, _⟩ rfl shown (.nil _)
      · rw [codeBlock, if_neg isDiagram]
        exact .other (by simp [Visit.isDiagram, diagramSource?, isDiagram]) (.nil _)
  | _ => first | exact .other rfl (.nil _) | simp [isContainer] at leaf

theorem walk_inTurn :
    WalkInvariant setting titleMode fun _ start visits final =>
      InTurn setting start.diagramCursor visits final.diagramCursor where
  nil progress := .nil _
  append := InTurn.append
  leaf node progress isLeaf := leaf_inTurn isLeaf progress
  enter node progress visits final container rest := by
    cases node <;> first | exact .other rfl rest | simp [isContainer] at container
  itemParagraph children progress := .nil _
  itemList ordered items progress visits final rest := rest

theorem diagramAt_behind {place : Nat} (behind : setting.diagrams.length ≤ place) :
    diagramAt setting place = [] := by
  rw [diagramAt, List.getElem?_eq_none_iff.mpr behind]

theorem InTurn.places {cursor final : Nat} {visits : List Visit}
    (inTurn : InTurn setting cursor visits final) (within : cursor ≤ setting.diagrams.length) :
    (∀ place visit, (visits.filter Visit.isDiagram)[place]? = some visit →
      visit.markup = diagramAt setting (cursor + place)) ∧
    final = min (cursor + (visits.filter Visit.isDiagram).length) setting.diagrams.length := by
  induction inTurn with
  | nil cursor =>
      constructor
      · simp
      · simp only [List.filter_nil, List.length_nil]
        omega
  | @diagram visit visits final isDiagram shown rest ih =>
      rw [List.filter_cons_of_pos isDiagram, List.length_cons]
      have step : nextCursor setting visit.before.diagramCursor =
          min (visit.before.diagramCursor + 1) setting.diagrams.length := by
        unfold nextCursor
        split <;> omega
      obtain ⟨places, last⟩ := ih (by omega)
      constructor
      · intro place found here
        cases place with
        | zero =>
            obtain rfl := Option.some.inj here
            exact shown
        | succ place =>
            rw [places place found here, step]
            by_cases more : visit.before.diagramCursor < setting.diagrams.length
            · congr 1
              omega
            · rw [diagramAt_behind (by omega), diagramAt_behind (by omega)]
      · omega
  | @other cursor visit visits final isOther rest ih =>
      rw [List.filter_cons_of_neg (by simp [isOther])]
      exact ih within

end Turns

section Sources

variable {setting : Setting} {titleMode : Bool}

def visitSources (visits : List Visit) : List Text := visits.filterMap (·.node.diagramSource?)

theorem visitSources_append (first second : List Visit) :
    visitSources (first ++ second) = visitSources first ++ visitSources second :=
  List.filterMap_append

theorem visitSources_cons (visit : Visit) (visits : List Visit) :
    visitSources (visit :: visits) = visit.node.diagramSource?.toList ++ visitSources visits := by
  rw [visitSources, List.filterMap_cons]
  cases visit.node.diagramSource? <;> rfl

theorem diagramSources_leaf {node : Node} (leaf : isContainer node = false)
    (placed : codePlaced node = true) : diagramSources node.children = [] := by
  apply diagramSources_of_hasNoCodeAll
  cases node with
  | codeBlock language code => rfl
  | list ordered items => simp [isContainer] at leaf
  | listItem children => simp [isContainer] at leaf
  | blockQuote children => simp [isContainer] at leaf
  | _ => exact (Bool.and_eq_true_iff.mp ((hasNoCode_eq _).symm.trans placed)).2

theorem codePlacedAll_children {node : Node} (container : isContainer node = true)
    (placed : codePlaced node = true) : codePlacedAll node.children = true := by
  cases node with
  | list ordered items => exact placed
  | listItem children => exact placed
  | blockQuote children => exact placed
  | _ => simp [isContainer] at container

theorem walk_sources :
    WalkInvariant setting titleMode fun nodes _ visits _ =>
      codePlacedAll nodes = true → visitSources visits = diagramSources nodes where
  nil progress placed := rfl
  append first second placed := by
    rw [codePlacedAll_append, Bool.and_eq_true] at placed
    rw [visitSources_append, diagramSources_append, first placed.1, second placed.2]
  leaf node progress isLeaf placed := by
    simp only [codePlacedAll, Bool.and_true] at placed
    rw [visitSources_cons, diagramSources_cons, diagramSources_leaf isLeaf placed, List.append_nil]
    rfl
  enter node progress visits final container rest placed := by
    simp only [codePlacedAll, Bool.and_true] at placed
    rw [visitSources_cons, diagramSources_cons, rest (codePlacedAll_children container placed)]
    exact (List.append_nil _).symm
  itemParagraph children progress placed := by
    simp only [codePlacedAll, Bool.and_true] at placed
    rw [diagramSources_cons, diagramSources_leaf rfl placed]
    rfl
  itemList ordered items progress visits final rest placed := by
    simp only [codePlacedAll, Bool.and_true] at placed
    rw [rest placed, diagramSources_cons]
    exact (List.append_nil _).symm

theorem diagramSources_marker {node : Node} (marker : isGroupMarker node = true)
    (nodes : List Node) : diagramSources (node :: nodes) = diagramSources nodes := by
  cases node with
  | raw html => rfl
  | _ => simp [isGroupMarker, isMarker] at marker

theorem diagramSources_topLevel (nodes : List Node) :
    diagramSources (topLevel nodes) = diagramSources nodes := by
  induction nodes with
  | nil => rfl
  | cons node nodes ih =>
      unfold topLevel at ih ⊢
      cases node with
      | frontMatter content => exact ih
      | _ => rw [List.filter_cons_of_pos rfl, diagramSources_cons, diagramSources_cons, ih]

theorem diagramSources_unmarked (nodes : List Node) :
    diagramSources (nodes.filter (! isGroupMarker ·)) = diagramSources nodes := by
  induction nodes with
  | nil => rfl
  | cons node nodes ih =>
      cases marker : isGroupMarker node with
      | true => rw [List.filter_cons_of_neg (by simp [marker]), diagramSources_marker marker, ih]
      | false =>
          rw [List.filter_cons_of_pos (by simp [marker]), diagramSources_cons, diagramSources_cons,
            ih]

theorem body_sources {nodes : List Node} (placed : codePlacedAll nodes = true)
    (progress : Progress) :
    visitSources (walkBody setting titleMode nodes progress).visits = diagramSources nodes := by
  obtain ⟨spans, divided⟩ := groups_divided setting.style.keepCodeWithPrevious 0 (topLevel nodes)
  rw [codePlacedAll_iff] at placed
  have kept := (@walk_sources setting titleMode).body_keeps nodes progress
  rw [← diagramSources_topLevel, ← diagramSources_unmarked (topLevel nodes), ← divided.unmarked,
    diagramSources_unmarked]
  apply kept
  rw [codePlacedAll_iff]
  intro node member
  exact placed node (List.mem_filter.mp (divided.sublist.subset member)).1

end Sources

section Names

theorem name_injective : Function.Injective DiagramBlock.name := by
  intro first second same
  have digits : Nat.toDigits 10 first = Nat.toDigits 10 second := List.append_cancel_left same
  rw [← @Nat.ofDigitChars_ten_toDigits first, digits, Nat.ofDigitChars_ten_toDigits]

theorem getElem?_diagramBlocks (nodes : List Node) (place : Nat) :
    (diagramBlocks nodes)[place]? =
      (diagramSources nodes)[place]?.map fun source => ⟨DiagramBlock.name place, source⟩ :=
  List.getElem?_mapIdx

theorem diagramBlocks_sources (nodes : List Node) :
    (diagramBlocks nodes).map (·.source) = diagramSources nodes := by
  apply List.ext_getElem?
  intro place
  rw [List.getElem?_map, getElem?_diagramBlocks, Option.map_map]
  exact Option.map_id_apply

theorem diagramBlocks_names (nodes : List Node) :
    (diagramBlocks nodes).map (·.id) =
      (List.range (diagramBlocks nodes).length).map DiagramBlock.name := by
  apply List.ext_getElem
  · rw [List.length_map, List.length_map, List.length_range]
  · intro place first second
    simp only [List.getElem_map, List.getElem_range, diagramBlocks, List.getElem_mapIdx]

end Names

def Walk.diagrams (walk : Walk) : List Visit := walk.visits.filter Visit.isDiagram

theorem Walk.diagrams_sources (walk : Walk) :
    walk.diagrams.map (·.node.diagramSource?) = (visitSources walk.visits).map some := by
  obtain ⟨markup, progress, visits⟩ := walk
  unfold diagrams
  induction visits with
  | nil => rfl
  | cons visit visits ih =>
      rw [visitSources_cons]
      cases source : visit.node.diagramSource? with
      | none =>
          rw [List.filter_cons_of_neg (by simp [Visit.isDiagram, source]), ih]
          rfl
      | some code =>
          rw [List.filter_cons_of_pos (by simp [Visit.isDiagram, source]), List.map_cons, ih,
            source]
          rfl

structure DiagramsShown (setting : Setting) (nodes : List Node) (walk : Walk) : Prop where
  met : walk.diagrams.map (·.node.diagramSource?) =
    (diagramBlocks nodes).map fun collected => some collected.source
  shown : ∀ (place : Nat) (visit : Visit), walk.diagrams[place]? = some visit →
    visit.markup = diagramAt setting place
  cursor : walk.progress.diagramCursor =
    min (diagramBlocks nodes).length setting.diagrams.length
  names : (diagramBlocks nodes).map (·.id) =
    (List.range (diagramBlocks nodes).length).map fun place => "diagram-" ++ Text.ofNat place
  distinct : ((diagramBlocks nodes).map (·.id)).Nodup
  -- Where all of them were rendered, each one shows its own image.
  own : setting.diagrams.map (·.id) = (diagramBlocks nodes).map (·.id) →
    ∀ (place : Nat) (visit : Visit), walk.diagrams[place]? = some visit →
      ∃ (collected : DiagramBlock) (rendered : RenderedDiagram),
        (diagramBlocks nodes)[place]? = some collected ∧
        setting.diagrams[place]? = some rendered ∧ rendered.id = collected.id ∧
        visit.node.diagramSource? = some collected.source ∧
        visit.markup = "#figure(\n  image(\"" ++
          Path.relativeTo rendered.image setting.output ++ "\", width: 80%),\n)\n\n"

theorem walk_diagramsShown {setting : Setting} {titleMode : Bool} {nodes : List Node}
    (placed : codePlacedAll nodes = true) :
    DiagramsShown setting nodes (walkBody setting titleMode nodes {}) := by
  have sources := @body_sources setting titleMode nodes placed {}
  have inTurn : InTurn setting 0 _ _ := (@walk_inTurn setting titleMode).body_keeps nodes {}
  obtain ⟨places, final⟩ := inTurn.places (Nat.zero_le _)
  have met := (walkBody setting titleMode nodes {}).diagrams_sources
  rw [sources, ← diagramBlocks_sources, List.map_map] at met
  have length := congrArg List.length met
  rw [List.length_map, List.length_map] at length
  have shown (place : Nat) (visit : Visit)
      (here : (walkBody setting titleMode nodes {}).diagrams[place]? = some visit) :
      visit.markup = diagramAt setting place := by
    rw [places place visit here, Nat.zero_add]
  refine ⟨met, shown, ?_, diagramBlocks_names nodes, ?_, ?_⟩
  · rw [final, Nat.zero_add, ← length]
    rfl
  · rw [diagramBlocks_names]
    exact List.nodup_range.map name_injective
  · intro rendered place visit here
    have source := congrArg (·[place]?) met
    have image := congrArg (·[place]?) rendered
    simp only [List.getElem?_map, here, Option.map_some] at source image
    obtain ⟨block, found, same⟩ := Option.map_eq_some_iff.mp source.symm
    rw [found, Option.map_some] at image
    obtain ⟨diagram, drawn, named⟩ := Option.map_eq_some_iff.mp image
    refine ⟨block, diagram, found, drawn, named, same.symm, ?_⟩
    rw [shown place visit here, diagramAt, drawn]

/-- A document shows the diagrams that it was read to contain, wherever they stand in it. -/
theorem body_diagrams (setting : Setting) (titleMode : Bool) :
    (∀ source, codePlacedAll (Markdown.parse source) = true) ∧
      ∀ nodes, codePlacedAll nodes = true →
        (walkBody setting titleMode nodes {}).result = body setting titleMode nodes {} ∧
          DiagramsShown setting nodes (walkBody setting titleMode nodes {}) :=
  ⟨Markdown.parse_codePlaced, fun nodes placed =>
    ⟨walkBody_result nodes {}, walk_diagramsShown placed⟩⟩

theorem body_diagrams_nested :
    let nodes : List Node := [.blockQuote [.codeBlock (some "mermaid") "a --> b"],
      .list false [.listItem [.paragraph [.text "item"], .codeBlock (some "mermaid") "c --> d"]]]
    let setting : Setting := { diagrams := [⟨"diagram-0", "diagrams/diagram-0.svg"⟩] }
    codePlacedAll nodes = true ∧
      (diagramBlocks nodes).map (·.id) = ["diagram-0".toList, "diagram-1".toList] ∧
      (walkBody setting false nodes {}).progress.diagramCursor = min 2 1 ∧
      (walkBody setting false nodes {}).markup =
        "#quote[\n#figure(\n  image(\"diagrams/diagram-0.svg\", width: 80%),\n)\n\n]\n\n" ++
          "- item\n\n".toList := by
  intro nodes setting
  have placed : codePlacedAll nodes = true := rfl
  have shown := ((body_diagrams setting false).2 nodes placed).2
  exact ⟨placed, shown.names, shown.cursor, by decide +kernel⟩

end Compositor.Markup
