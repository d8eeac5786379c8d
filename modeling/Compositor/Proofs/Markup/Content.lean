import Compositor.Proofs.Document.Tree
import Compositor.Proofs.Markup.Division

/-! Grouping leaves the content of a document alone. A body is made of the texts of its top-level
nodes, each set once and in turn; wrappers stand between these texts and nothing else does. So
neither the pairing of code nor a marker of groups changes what is set, or the progress after it. -/

namespace Compositor.Markup

/-- The output consists of the texts, in order, and of the two ends of wrappers between them. -/
inductive Assembled : (texts : List Text) → (output : Text) → Prop
  | nil : Assembled [] []
  | text (text : Text) {texts output} (rest : Assembled texts output) :
      Assembled (text :: texts) (text ++ output)
  | opening {texts output} (rest : Assembled texts output) :
      Assembled texts ("#block(breakable: false)[\n" ++ output)
  | closing {texts output} (rest : Assembled texts output) : Assembled texts ("]\n\n" ++ output)

theorem Assembled.append (first : List Text) {texts : List Text} {output : Text}
    (rest : Assembled texts output) : Assembled (first ++ texts) (first.flatten ++ output) := by
  induction first with
  | nil => exact rest
  | cons text first ih =>
      rw [List.cons_append, List.flatten_cons, List.append_assoc]
      exact .text text ih

section Groups

variable {setting : Setting} {titleMode : Bool}

theorem Divided.assembled {pairCode : Bool} {position : Nat} {nodes : List Node}
    {groups : List Group} {spans : List Span}
    (divided : Divided pairCode position nodes groups spans)
    (progress : Progress) :
    Assembled (blockTexts setting titleMode nodes progress)
      (groupsMarkup setting titleMode groups progress).1 := by
  induction divided generalizing progress with
  | nil => exact .nil
  | held starts passes other ends rest ih =>
      rw [groupsMarkup_cons, blockTexts_held starts ends]
      simp only [Group.wrap, if_true, List.append_assoc]
      -- The markers are texts of their own, which are empty.
      exact .text [] (.opening (.append _ (.text [] (.closing (ih _)))))
  | @code position paragraph code after groups spans pairs isParagraph isCode rest ih =>
      rw [groupsMarkup_cons]
      simp only [Group.wrap, if_true, List.append_assoc]
      exact .opening (.append (blockTexts setting titleMode [paragraph, code] progress)
        (.closing (ih _)))
  | @single position node after groups spans opened alone rest ih =>
      rw [groupsMarkup_cons]
      exact .append (blockTexts setting titleMode [node] progress) (ih _)

theorem body_assembled (nodes : List Node) (progress : Progress) :
    Assembled (blockTexts setting titleMode (topLevel nodes) progress)
      (body setting titleMode nodes progress).1 := by
  obtain ⟨groups, spans, divided, same⟩ := body_divided setting titleMode nodes progress
  rw [same]
  exact divided.assembled progress

theorem body_progress (nodes : List Node) (progress : Progress) :
    (body setting titleMode nodes progress).2 =
      progressAfter setting titleMode (topLevel nodes) progress := by
  obtain ⟨groups, spans, divided, same⟩ := body_divided setting titleMode nodes progress
  rw [same]
  exact divided.progress progress

end Groups

/-! Settings that agree on page breaks, on the outline and on code set the same blocks. -/

section Alike

variable {setting other : Setting} {titleMode : Bool}

theorem blocks_congr (nodes : List Node)
    (same : ∀ node ∈ nodes, ∀ progress,
      block other titleMode node progress = block setting titleMode node progress)
    (progress : Progress) :
    blocks other titleMode nodes progress = blocks setting titleMode nodes progress := by
  have mapped := blocks_map id nodes same progress
  rwa [List.map_id] at mapped

theorem listItems_congr (nodes : List Node)
    (same : ∀ node ∈ nodes, ∀ progress,
      block other titleMode node progress = block setting titleMode node progress)
    (marker : Char) (progress : Progress) :
    listItems other titleMode marker nodes progress =
      listItems setting titleMode marker nodes progress := by
  have mapped := listItems_map id nodes same marker progress
  rwa [List.map_id] at mapped

theorem itemContent_congr (nodes : List Node)
    (same : ∀ node ∈ nodes, ∀ progress,
      itemChild other titleMode node progress = itemChild setting titleMode node progress)
    (content : Text) (progress : Progress) :
    itemContent other titleMode content nodes progress =
      itemContent setting titleMode content nodes progress := by
  have mapped := itemContent_map id (fun _ _ => rfl) nodes same content progress
  rwa [List.map_id] at mapped

structure SetsAlike (setting other : Setting) : Prop where
  breaks : other.style.pageBreakLevel = setting.style.pageBreakLevel
  outline : other.style.tocDepth = setting.style.tocDepth
  code : ∀ language code progress,
    codeBlock other language code progress = codeBlock setting language code progress

theorem block_congr (alike : SetsAlike setting other) (node : Node) :
    (∀ progress, block other titleMode node progress = block setting titleMode node progress) ∧
      ∀ progress,
        itemChild other titleMode node progress = itemChild setting titleMode node progress := by
  induction node using Node.childInduction with
  | step node ih =>
      have sameBlock := fun child member => (ih child member).1
      have sameChild := fun child member => (ih child member).2
      cases node with
      | heading depth children =>
          have breaks (progress : Progress) :
              breaksPage other.style progress depth = breaksPage setting.style progress depth := by
            rw [breaksPage, breaksPage, alike.breaks]
          have same (progress : Progress) :
              block other titleMode (.heading depth children) progress =
                block setting titleMode (.heading depth children) progress :=
            congrArg (fun breaks =>
              (pageBreak breaks ++ headingLine titleMode depth (inlines children),
                { progress with previousWasHeading := true })) (breaks progress)
          exact ⟨same, same⟩
      | raw html =>
          have depth :
              outlineDepth other.style titleMode = outlineDepth setting.style titleMode := by
            rw [outlineDepth, outlineDepth, alike.outline]
          have same :
              rawBlock other.style titleMode html = rawBlock setting.style titleMode html := by
            unfold rawBlock
            rw [depth]
          exact ⟨fun _ => congrArg (·, _) same, fun _ => congrArg (·, _) same⟩
      | codeBlock language code =>
          have same (progress : Progress) := alike.code language code progress.cleared
          exact ⟨same, same⟩
      | list ordered items =>
          have same := listItems_congr items sameBlock (listMarker ordered)
          constructor
          · intro progress
            simp only [block_list, list, same]
          · intro progress
            simp only [itemChild, list, same]
      | listItem children =>
          have same := itemContent_congr children sameChild []
          constructor <;> intro progress <;> simp only [itemChild, block_listItem, same]
      | blockQuote children =>
          have same := blocks_congr children sameBlock
          constructor <;> intro progress <;> simp only [itemChild, block_blockQuote, same]
      | _ => exact ⟨fun _ => rfl, fun _ => rfl⟩

end Alike

/-! The pairing of code does not reach a single block. -/

section Pairing

def Setting.withPairCode (setting : Setting) (pairCode : Bool) : Setting :=
  { setting with style := { setting.style with keepCodeWithPrevious := pairCode } }

theorem block_withPairCode (setting : Setting) (titleMode pairCode : Bool) (node : Node) :
    (∀ progress, block (setting.withPairCode pairCode) titleMode node progress =
        block setting titleMode node progress) ∧
      ∀ progress, itemChild (setting.withPairCode pairCode) titleMode node progress =
        itemChild setting titleMode node progress :=
  @block_congr setting (setting.withPairCode pairCode) titleMode
    ⟨rfl, rfl, fun _ _ _ => rfl⟩ node

theorem blockTexts_withPairCode (setting : Setting) (titleMode pairCode : Bool)
    (nodes : List Node) (progress : Progress) :
    blockTexts (setting.withPairCode pairCode) titleMode nodes progress =
      blockTexts setting titleMode nodes progress := by
  induction nodes generalizing progress with
  | nil => rfl
  | cons node nodes ih =>
      have same := (block_withPairCode setting titleMode pairCode node).1 progress
      simp only [blockTexts, same, ih]

theorem progressAfter_withPairCode (setting : Setting) (titleMode pairCode : Bool)
    (nodes : List Node) (progress : Progress) :
    progressAfter (setting.withPairCode pairCode) titleMode nodes progress =
      progressAfter setting titleMode nodes progress := by
  induction nodes generalizing progress with
  | nil => rfl
  | cons node nodes ih =>
      have same := (block_withPairCode setting titleMode pairCode node).1 progress
      simp only [progressAfter, List.foldl_cons, same]
      exact ih _

end Pairing

/-! Markers of groups can be taken out. -/

section Markers

variable (setting : Setting) (titleMode : Bool)

theorem progressAfter_unmarked (nodes : List Node) (progress : Progress) :
    progressAfter setting titleMode (nodes.filter (! isGroupMarker ·)) progress =
      progressAfter setting titleMode nodes progress := by
  induction nodes generalizing progress with
  | nil => rfl
  | cons node nodes ih =>
      cases marker : isGroupMarker node with
      | true =>
          rw [List.filter_cons_of_neg (by simp [marker]), progressAfter_groupMarker _ _ marker, ih]
      | false =>
          rw [List.filter_cons_of_pos (by simp [marker])]
          exact ih _

def nonemptyTexts (texts : List Text) : List Text := texts.filter (! ·.isEmpty)

theorem nonemptyTexts_cons_congr (text : Text) {first second : List Text}
    (same : nonemptyTexts first = nonemptyTexts second) :
    nonemptyTexts (text :: first) = nonemptyTexts (text :: second) := by
  unfold nonemptyTexts at *
  rw [List.filter_cons, List.filter_cons, same]

theorem nonemptyTexts_unmarked (nodes : List Node) (progress : Progress) :
    nonemptyTexts (blockTexts setting titleMode (nodes.filter (! isGroupMarker ·)) progress) =
      nonemptyTexts (blockTexts setting titleMode nodes progress) := by
  induction nodes generalizing progress with
  | nil => rfl
  | cons node nodes ih =>
      cases marker : isGroupMarker node with
      | true =>
          rw [List.filter_cons_of_neg (by simp [marker]), blockTexts_groupMarker _ _ marker, ih]
          rfl
      | false =>
          rw [List.filter_cons_of_pos (by simp [marker])]
          exact nonemptyTexts_cons_congr _ (ih _)

def unmarked (nodes : List Node) : List Node := (topLevel nodes).filter (! isGroupMarker ·)

end Markers

/-- A body shows its top-level nodes one by one, with nothing added but wrappers. Other choices of
what to keep together, by pairing or by markers, show the same texts and end with the same
progress. -/
theorem body_content (setting : Setting) (titleMode : Bool) (nodes : List Node)
    (progress : Progress) :
    Assembled (blockTexts setting titleMode (topLevel nodes) progress)
        (body setting titleMode nodes progress).1 ∧
      (body setting titleMode nodes progress).2 =
        progressAfter setting titleMode (topLevel nodes) progress ∧
      ∀ (pairCode : Bool) (others : List Node), unmarked others = unmarked nodes →
        nonemptyTexts
              (blockTexts (setting.withPairCode pairCode) titleMode (topLevel others) progress) =
            nonemptyTexts (blockTexts setting titleMode (topLevel nodes) progress) ∧
          (body (setting.withPairCode pairCode) titleMode others progress).2 =
            (body setting titleMode nodes progress).2 := by
  refine ⟨body_assembled nodes progress, body_progress nodes progress, ?_⟩
  intro pairCode others same
  unfold unmarked at same
  constructor
  · rw [blockTexts_withPairCode, ← nonemptyTexts_unmarked, same, nonemptyTexts_unmarked]
  · rw [body_progress, body_progress, progressAfter_withPairCode, ← progressAfter_unmarked, same,
      progressAfter_unmarked]

theorem body_content_heldDiagram :
    let plain : List Node := [.heading 2 [.text "Flow"], .codeBlock (some "mermaid") "a --> b"]
    let held : List Node := .raw "<!-- keep-together -->" :: plain ++
      [.raw "<!-- /keep-together -->\n", .raw "<!-- keep-together -->"]
    let setting : Setting := { diagrams := [⟨"diagram-0", "diagrams/diagram-0.svg"⟩] }
    unmarked held = unmarked plain ∧
      nonemptyTexts (blockTexts (setting.withPairCode false) false (topLevel held) {}) =
          nonemptyTexts (blockTexts setting false (topLevel plain) {}) ∧
        (body (setting.withPairCode false) false held {}).2 = (body setting false plain {}).2 := by
  intro plain held setting
  have same : unmarked held = unmarked plain := rfl
  exact ⟨same, (body_content setting false plain {}).2.2 false held same⟩

end Compositor.Markup
