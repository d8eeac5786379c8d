import Compositor.Proofs.Document.Tree
import Compositor.Proofs.Markup.Block
import Compositor.Proofs.Markup.Division
import Compositor.Proofs.Markup.Indentation
import Compositor.Proofs.Text.Literal

/-! The string literals of diagram figures. They name the images of the diagrams placed so far, in
the order of the diagrams. Nothing that is done to the content of a list item reaches into a
literal of a single line. -/

namespace Compositor.Markup

open Text

def figureLiteral (output image : Path) : Literal where
  opening := "image(\""
  value := Path.relativeTo image output
  closing := ", width: 80%),"

def figureTexts (output : Path) (diagrams : List RenderedDiagram) : List Text :=
  (diagrams.map fun diagram => figureLiteral output diagram.image).map Literal.written

theorem diagramFigure_written (output image : Path) :
    diagramFigure output image =
      ("#figure(\n  " : Text) ++ (figureLiteral output image).written ++ ("\n)\n\n" : Text) := by
  have opening : ("#figure(\n  image(\"" : Text) =
      ("#figure(\n  " : Text) ++ ("image(\"" : Text) := by decide
  have closing : ("\", width: 80%),\n)\n\n" : Text) =
      '"' :: (", width: 80%)," : Text) ++ ("\n)\n\n" : Text) := by decide
  unfold diagramFigure figureLiteral Literal.written
  rw [opening, closing]
  simp only [List.append_assoc, List.cons_append]

theorem figureLiteral_solid {output image : Path}
    (oneLine : '\n' ∉ Path.relativeTo image output) :
    Solid (figureLiteral output image).written := by
  have opening : ("image(\"" : Text) = 'i' :: ("mage(\"" : Text) := by decide
  have closing : (", width: 80%)," : Text) = (", width: 80%)" : Text) ++ [','] := by decide
  have before : '\n' ∉ ("image(\"" : Text) := by decide
  have behind : '\n' ∉ '"' :: (", width: 80%)," : Text) := by decide
  unfold figureLiteral Literal.written
  refine ⟨?_, ?_, ?_⟩
  · rw [opening]
    exact ⟨'i', _, rfl, by decide⟩
  · rw [closing, ← List.cons_append, ← List.append_assoc]
    exact ⟨_, ',', rfl, by decide⟩
  · rw [List.mem_append, List.mem_append]
    rintro ((inOpening | inPath) | inClosing)
    · exact before inOpening
    · exact oneLine inPath
    · exact behind inClosing

section Figures

variable {setting : Setting} {titleMode : Bool}

def ShowsDiagrams (setting : Setting) (start stop : Nat) (markup : Text) : Prop :=
  ∃ shown, setting.diagrams.take stop = setting.diagrams.take start ++ shown ∧
    OccursInOrder (figureTexts setting.output shown) markup

namespace ShowsDiagrams

variable {start middle stop : Nat} {markup more : Text}

theorem none (place : Nat) (markup : Text) : ShowsDiagrams setting place place markup :=
  ⟨[], (List.append_nil _).symm, trivial⟩

theorem append (first : ShowsDiagrams setting start middle markup)
    (second : ShowsDiagrams setting middle stop more) :
    ShowsDiagrams setting start stop (markup ++ more) := by
  obtain ⟨earlier, taken, occurs⟩ := first
  obtain ⟨later, takenNext, occursNext⟩ := second
  refine ⟨earlier ++ later, ?_, ?_⟩
  · rw [takenNext, taken, List.append_assoc]
  · have both := occurs.append occursNext
    rwa [figureTexts, figureTexts, ← List.map_append, ← List.map_append] at both

theorem within (inner : ShowsDiagrams setting start stop markup) (before behind : Text) :
    ShowsDiagrams setting start stop (before ++ markup ++ behind) := by
  obtain ⟨shown, taken, occurs⟩ := inner
  exact ⟨shown, taken, occurs.within before behind⟩

end ShowsDiagrams

def ShowsPassed (setting : Setting) (before : Progress) (result : Text × Progress) : Prop :=
  ShowsDiagrams setting before.diagramCursor result.2.diagramCursor result.1

theorem codeBlock_shows (language : Option Text) (code : Text) (progress : Progress) :
    ShowsPassed setting progress (codeBlock setting language code progress) := by
  unfold codeBlock
  by_cases isDiagram : language = some diagramLanguage
  · rw [if_pos isDiagram]
    cases found : setting.diagrams[progress.diagramCursor]? with
    | none => exact .none _ _
    | some diagram =>
        refine ⟨[diagram], ?_, ?_⟩
        · rw [List.take_add_one, found]
          rfl
        · change OccursInOrder [_] (diagramFigure setting.output diagram.image)
          rw [diagramFigure_written]
          exact (OccursInOrder.self _).within _ _
  · rw [if_neg isDiagram]
    exact .none _ _

theorem blocks_show_of (nodes : List Node)
    (each : ∀ node ∈ nodes, ∀ progress,
      ShowsPassed setting progress (block setting titleMode node progress))
    (progress : Progress) :
    ShowsPassed setting progress (blocks setting titleMode nodes progress) := by
  induction nodes generalizing progress with
  | nil => exact .none _ _
  | cons node nodes ih =>
      have first := each node (.head _) progress
      have rest := ih (fun later member => each later (.tail _ member))
        (block setting titleMode node progress).2
      exact first.append rest

theorem listItems_show_of (items : List Node)
    (each : ∀ item ∈ items, ∀ progress,
      ShowsPassed setting progress (block setting titleMode item progress))
    (marker : Char) (progress : Progress) :
    ShowsPassed setting progress (listItems setting titleMode marker items progress) := by
  induction items generalizing progress with
  | nil => exact .none _ _
  | cons item items ih =>
      have first := each item (.head _) progress
      have rest := ih (fun later member => each later (.tail _ member))
        (block setting titleMode item progress).2
      have marked := (ShowsDiagrams.none progress.diagramCursor [marker, ' ']).append first
      exact marked.append rest

theorem itemContent_show_of (nodes : List Node)
    (each : ∀ node ∈ nodes, ∀ progress,
      ShowsPassed setting progress (itemChild setting titleMode node progress))
    {start : Nat} {content : Text} {progress : Progress}
    (before : ShowsDiagrams setting start progress.diagramCursor content) :
    ShowsDiagrams setting start
      (itemContent setting titleMode content nodes progress).2.diagramCursor
      (itemContent setting titleMode content nodes progress).1 := by
  induction nodes generalizing content progress with
  | nil => exact before
  | cons node nodes ih =>
      have gap := before.append (.none _ (itemGap content node))
      have grown := gap.append (each node (.head _) progress)
      rw [itemContent_cons]
      exact ih (fun later member => each later (.tail _ member)) grown

section Items

variable (oneLine : ∀ diagram ∈ setting.diagrams,
  '\n' ∉ Path.relativeTo diagram.image setting.output)
include oneLine

theorem figureTexts_solid {start stop : Nat} {shown : List RenderedDiagram}
    (taken : setting.diagrams.take stop = setting.diagrams.take start ++ shown) :
    ∀ text ∈ figureTexts setting.output shown, Solid text := by
  rw [figureTexts, List.map_map, List.forall_mem_map]
  intro diagram member
  refine figureLiteral_solid (oneLine diagram (List.mem_of_mem_take (i := stop) ?_))
  rw [taken]
  exact List.mem_append_right _ member

theorem ShowsDiagrams.indented {start stop : Nat} {content : Text}
    (inner : ShowsDiagrams setting start stop content) :
    ShowsDiagrams setting start stop (indentRest (Text.trim content)) := by
  obtain ⟨shown, taken, occurs⟩ := inner
  have solid := figureTexts_solid oneLine taken
  exact ⟨shown, taken, occursInOrder_indentRest solid (OccursInOrder.trim solid occurs)⟩

theorem block_shows (node : Node) :
    (∀ progress, ShowsPassed setting progress (block setting titleMode node progress)) ∧
      ∀ progress, ShowsPassed setting progress (itemChild setting titleMode node progress) := by
  induction node using Node.childInduction with
  | step node ih =>
      have eachBlock := fun child member => (ih child member).1
      have eachChild := fun child member => (ih child member).2
      cases node with
      | codeBlock language code =>
          have shown (progress : Progress) :=
            @codeBlock_shows setting language code progress.cleared
          exact ⟨shown, shown⟩
      | list ordered items =>
          have inner := listItems_show_of items eachBlock (listMarker ordered)
          have closed (progress : Progress) :=
            (inner progress).append (.none _ ("\n" : Text))
          exact ⟨fun progress => closed progress.cleared, closed⟩
      | listItem children =>
          have shown (progress : Progress) : ShowsPassed setting progress
              (block setting titleMode (.listItem children) progress) := by
            have content := itemContent_show_of children eachChild
              (ShowsDiagrams.none progress.diagramCursor [])
            rw [block_listItem]
            exact (content.indented oneLine).append (.none _ _)
          exact ⟨shown, shown⟩
      | blockQuote children =>
          have shown (progress : Progress) : ShowsPassed setting progress
              (block setting titleMode (.blockQuote children) progress) := by
            have content := blocks_show_of children eachBlock progress.cleared
            rw [block_blockQuote]
            exact content.within _ _
          exact ⟨shown, shown⟩
      | _ => exact ⟨fun _ => .none _ _, fun _ => .none _ _⟩

theorem groupsMarkup_shows (groups : List Group) (progress : Progress) :
    ShowsPassed setting progress (groupsMarkup setting titleMode groups progress) := by
  induction groups generalizing progress with
  | nil => exact .none _ _
  | cons group groups ih =>
      have content := @blocks_show_of setting titleMode group.nodes
        (fun node _ => (block_shows oneLine node).1) progress
      rw [blocks_eq] at content
      rw [groupsMarkup_cons]
      refine ShowsDiagrams.append ?_ (ih _)
      unfold Group.wrap
      split
      · exact content.within _ _
      · exact content

/-- The diagrams shown in a body are the first ones, as many as the cursor has passed. -/
theorem body_written (nodes : List Node) :
    OccursInOrder
      (figureTexts setting.output
        (setting.diagrams.take (body setting titleMode nodes {}).2.diagramCursor))
      (body setting titleMode nodes {}).1 := by
  obtain ⟨shown, taken, occurs⟩ := @groupsMarkup_shows setting titleMode oneLine
    (groups setting.style.keepCodeWithPrevious (topLevel nodes)) {}
  have all : setting.diagrams.take (body setting titleMode nodes {}).2.diagramCursor = shown :=
    taken
  rw [all]
  exact occurs

end Items
end Figures
end Compositor.Markup
