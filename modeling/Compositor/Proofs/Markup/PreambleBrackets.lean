import Compositor.Markup.Preamble
import Compositor.Proofs.Markup.Scans
import Compositor.Proofs.Path.Characters
import Compositor.Proofs.Text.Brackets

/-! The brackets before the body of a document. The preamble sets cells and the parts of dates in
brackets of its own and closes them all, as long as the texts that it is given hold none. -/

namespace Compositor

def PageBand.writtenTexts (band : PageBand) : List Text := band.cells.filterMap id

/-- The title, the author and the date of a document are not set. -/
def DocumentStyle.writtenTexts (style : DocumentStyle) : List Text :=
  style.font.toList ++ style.headingSpacing.before.toList ++ style.headingSpacing.after.toList ++
    style.pageBands.flatMap (·.2.writtenTexts)

namespace Markup

open Text

/-- Copies are taken from the source directory, but it is not written. -/
def Places.writtenTexts (places : Places) : List Text := [places.output, places.assets]

/-! Paths. -/

theorem join_bracketFree {base path : Path} (baseFree : bracketFree base = true)
    (pathFree : bracketFree path = true) : bracketFree (Path.join base path) = true := by
  rw [bracketFree_iff] at baseFree pathFree ⊢
  intro character member
  rcases Path.mem_join member with early | late | rfl
  · exact baseFree character early
  · exact pathFree character late
  · rfl

theorem relativeTo_bracketFree {target : Path} (free : bracketFree target = true) (base : Path) :
    bracketFree (Path.relativeTo target base) = true := by
  rw [bracketFree_iff] at free ⊢
  intro character member
  rcases Path.mem_relativeTo member with inside | rfl | rfl
  · exact free character inside
  · rfl
  · rfl

/-! Emphasis. -/

theorem runs_bracketFree {delimiter text : Text} (free : bracketFree text = true) {run : Run}
    (isRun : run ∈ runs delimiter text) : bracketFree (run.source delimiter) = true := by
  rw [← runs_source delimiter text, bracketFree_flatMap] at free
  exact free run isRun

theorem boldStandIn_bracketFree (index : Nat) : bracketFree (boldStandIn index) = true := by
  have front : bracketFree "\x00BOLD\x00" = true := by decide
  unfold boldStandIn
  rw [bracketFree_append, bracketFree_append]
  exact ⟨⟨front, bracketFree_ofNat index⟩, front⟩

theorem setBoldAside_bracketFree {found : List Run}
    (free : ∀ run ∈ found, bracketFree (run.source "**") = true) (index : Nat) :
    bracketFree (setBoldAside index found).1 = true ∧
      ∀ content ∈ (setBoldAside index found).2, bracketFree content = true := by
  induction found generalizing index with
  | nil => exact ⟨rfl, nofun⟩
  | cons run found ih =>
      have rest := ih (fun later member => free later (.tail _ member))
      have first := free run (.head _)
      cases run with
      | literal text => exact ⟨bracketFree_append.mpr ⟨first, (rest index).1⟩, (rest index).2⟩
      | span content =>
          simp only [Run.source, bracketFree_append] at first
          constructor
          · exact bracketFree_append.mpr ⟨boldStandIn_bracketFree index, (rest (index + 1)).1⟩
          · intro later member
            rcases List.mem_cons.mp member with rfl | inner
            · exact first.1.2
            · exact (rest (index + 1)).2 later inner

theorem restoreBold_bracketFree {contents : List Text} {text : Text}
    (each : ∀ content ∈ contents, bracketFree content = true) (free : bracketFree text = true)
    (index : Nat) : bracketFree (restoreBold index contents text) = true := by
  induction contents generalizing index text with
  | nil => exact free
  | cons content contents ih =>
      apply ih (fun later member => each later (.tail _ member))
      apply bracketFree_replaceAll _ _ free
      simp only [bracketFree_append]
      exact ⟨⟨by decide, each content (.head _)⟩, by decide⟩

theorem emphasize_bracketFree {text : Text} (free : bracketFree text = true) :
    bracketFree (emphasize text) = true := by
  obtain ⟨without, contents⟩ := setBoldAside_bracketFree (fun run isRun =>
    runs_bracketFree free isRun) 0
  apply restoreBold_bracketFree contents
  rw [bracketFree_flatMap]
  intro run isRun
  have source := runs_bracketFree without isRun
  cases run with
  | literal text => exact source
  | span content =>
      simp only [Run.source, bracketFree_append] at source
      simp only [italicRun, bracketFree_append]
      exact ⟨⟨by decide, source.1.2⟩, by decide⟩

/-! Cells. -/

theorem datePattern_balanced {format : Text} (free : bracketFree format = true) :
    Balanced (datePattern format) := by
  fun_induction datePattern format with
  | case1 rest ih =>
      simp only [bracketFree_cons] at free
      exact Balanced.append (by decide) (ih free.2.2.2.2)
  | case2 rest ih =>
      simp only [bracketFree_cons] at free
      exact Balanced.append (by decide) (ih free.2.2)
  | case3 rest ih =>
      simp only [bracketFree_cons] at free
      exact Balanced.append (by decide) (ih free.2.2)
  | case4 character rest _ _ _ ih =>
      rw [bracketFree_cons] at free
      have single : bracketFree [character] = true := bracketFree_cons.mpr ⟨free.1, rfl⟩
      exact (balanced_of_bracketFree single).append (ih free.2)
  | case5 => decide

theorem inBraces_bracketFree {text : Text} (free : bracketFree (inBraces text) = true) :
    bracketFree text = true := by
  rw [inBraces, bracketFree_append, bracketFree_append] at free
  exact free.1.2

theorem pageBands_name {style : DocumentStyle} {part : Text × PageBand}
    (isBand : part ∈ style.pageBands) : Balanced part.1 := by
  obtain ⟨⟨name, band?⟩, isName, chosen⟩ := List.mem_filterMap.mp isBand
  have named : name = part.1 := by
    cases band? with
    | none => cases chosen
    | some band =>
        simp only at chosen
        split at chosen
        · cases chosen
        · exact congrArg Prod.fst (Option.some.inj chosen)
  rw [← named]
  rcases List.mem_cons.mp isName with header | footer
  · cases header
    decide
  · cases List.mem_singleton.mp footer
    decide

section Places

variable {places : Places}
  (placesFree : ∀ text ∈ places.writtenTexts, bracketFree text = true)
include placesFree

theorem logoImage_bracketFree {path : Path} (free : bracketFree path = true) :
    bracketFree (Path.relativeTo (logoCopy places path).destination places.output) = true := by
  simp only [Places.writtenTexts, List.forall_mem_cons] at placesFree
  obtain ⟨outputFree, assetsFree, -⟩ := placesFree
  have nameFree : bracketFree ((Path.fileName? path).getD path) = true := by
    cases found : Path.fileName? path with
    | none => exact free
    | some name =>
        rw [bracketFree_iff] at free ⊢
        exact fun character member => free character (Path.mem_fileName? found member)
  have destination := join_bracketFree (join_bracketFree outputFree assetsFree) nameFree
  exact relativeTo_bracketFree destination places.output

theorem logoMarkup_bracketFree {path : Path} {height : Option Text}
    (pathFree : bracketFree path = true)
    (heightFree : ∀ length ∈ height, bracketFree length = true) :
    bracketFree (logoMarkup places path height) = true := by
  have image := logoImage_bracketFree placesFree pathFree
  have length : bracketFree (height.getD "1em") = true := by
    cases height with
    | none => decide
    | some length => exact heightFree length rfl
  unfold logoMarkup
  simp only [bracketFree_append]
  exact ⟨⟨⟨⟨by decide, image⟩, by decide⟩, length⟩, by decide⟩

theorem segmentMarkup_balanced {segment : Segment} (free : bracketFree segment.source = true) :
    Balanced (segment.markup places) := by
  cases segment with
  | literal text => exact balanced_of_bracketFree free
  | page => exact (by decide : Balanced "#counter(page).display()")
  | totalPages => exact (by decide : Balanced "#counter(page).final().last()")
  | date format =>
      have pattern : Balanced ((format.map datePattern).getD "[year]-[month]-[day]") := by
        cases format with
        | none => decide
        | some format =>
            have inner := inBraces_bracketFree free
            exact datePattern_balanced (bracketFree_append.mp inner).2
      exact pattern.between (by decide) (by decide)
  | logo path height =>
      apply balanced_of_bracketFree
      cases height with
      | none =>
          have inner := inBraces_bracketFree free
          exact logoMarkup_bracketFree placesFree (bracketFree_append.mp inner).2 nofun
      | some height =>
          have inner := inBraces_bracketFree free
          simp only [bracketFree_append] at inner
          apply logoMarkup_bracketFree placesFree inner.1.1.2
          rintro length ⟨⟩
          exact inner.2

theorem resolveCell_balanced {text : Text} (free : bracketFree text = true) :
    Balanced (resolveCell places text).markup := by
  have source := emphasize_bracketFree free
  rw [← tokenize_source (emphasize text), bracketFree_flatMap] at source
  exact Balanced.flatMap fun segment member =>
    segmentMarkup_balanced placesFree (source segment member)

theorem gridCell_balanced {cell : Option Text}
    (free : ∀ text ∈ cell, bracketFree text = true) : Balanced (gridCell places cell) := by
  unfold gridCell
  split
  next character text =>
    have content := resolveCell_balanced placesFree (free _ rfl)
    unfold ResolvedCell.gridCell
    split
    next deferred =>
      rw [ResolvedCell.display, if_pos deferred]
      exact content.within (by decide) (by decide)
    next => exact content.within (by decide) (by decide)
  next => decide

theorem pageBand_balanced {name : Text} {band : PageBand} (named : Balanced name)
    (free : ∀ text ∈ band.writtenTexts, bracketFree text = true) :
    Balanced (pageBand places name band) := by
  have each (cell : Option Text) (isCell : cell ∈ band.cells) :
      Balanced (gridCell places cell) := by
    apply gridCell_balanced placesFree
    rintro text ⟨⟩
    exact free text (List.mem_filterMap.mpr ⟨some text, isCell, rfl⟩)
  have left := each band.left (.head _)
  have center := each band.center (.tail _ (.head _))
  have right := each band.right (.tail _ (.tail _ (.head _)))
  unfold pageBand
  repeat' apply Balanced.append
  all_goals first | assumption | exact .literal (by decide)

theorem pageSetup_balanced {style : DocumentStyle}
    (free : ∀ text ∈ style.pageBands.flatMap (·.2.writtenTexts), bracketFree text = true) :
    Balanced (pageSetup places style) := by
  have bands (part : Text × PageBand) (isBand : part ∈ style.pageBands) :
      Balanced (pageBand places part.1 part.2) := by
    apply pageBand_balanced placesFree (pageBands_name isBand)
    intro text isWritten
    exact free text (List.mem_flatMap.mpr ⟨part, isBand, isWritten⟩)
  simp only [pageSetup]
  split
  · decide
  · have parts := Balanced.join (by decide : Balanced ",\n") (List.forall_mem_map.mpr bands)
    exact parts.between (by decide) (by decide)

end Places

/-! The rest of the preamble. -/

theorem fontName_bracketFree {font : Text} (free : bracketFree font = true) :
    bracketFree (fontName font) = true := by
  simp only [fontName]
  split
  · decide
  · split
    · decide
    · exact free

theorem fontSetup_balanced {style : DocumentStyle}
    (free : ∀ font ∈ style.font, bracketFree font = true) : Balanced (fontSetup style) := by
  unfold fontSetup
  split
  next font chosen =>
    have name := balanced_of_bracketFree (fontName_bracketFree (free font chosen))
    exact name.between (by decide) (by decide)
  next => decide

theorem spacingSide_balanced {name side : Text} {length : Option Text} (named : Balanced name)
    (free : ∀ text ∈ length, bracketFree text = true) (isSide : side ∈ spacingSide name length) :
    Balanced side := by
  cases length with
  | none => cases isSide
  | some length =>
      obtain rfl := List.mem_singleton.mp isSide
      exact (named.append (by decide)).append (balanced_of_bracketFree (free length rfl))

theorem headingSpacing_balanced {style : DocumentStyle}
    (before : ∀ length ∈ style.headingSpacing.before, bracketFree length = true)
    (after : ∀ length ∈ style.headingSpacing.after, bracketFree length = true) :
    Balanced (headingSpacing style) := by
  have sides : ∀ side ∈ spacingSide "above" style.headingSpacing.before ++
      spacingSide "below" style.headingSpacing.after, Balanced side := by
    intro side isSide
    rcases List.mem_append.mp isSide with above | below
    · exact spacingSide_balanced (by decide) before above
    · exact spacingSide_balanced (by decide) after below
  simp only [headingSpacing]
  split
  · decide
  · have lengths := Balanced.join (by decide : Balanced ", ") sides
    exact lengths.between (.literal (by decide)) (by decide)

theorem preamble_balanced {places : Places} {style : DocumentStyle}
    (placesFree : ∀ text ∈ places.writtenTexts, bracketFree text = true)
    (styleFree : ∀ text ∈ style.writtenTexts, bracketFree text = true) (titleMode : Bool) :
    Balanced (preamble places style titleMode) := by
  simp only [DocumentStyle.writtenTexts, List.forall_mem_append, Option.mem_toList] at styleFree
  obtain ⟨⟨⟨fontFree, beforeFree⟩, afterFree⟩, bandsFree⟩ := styleFree
  have font := fontSetup_balanced fontFree
  have spacing := headingSpacing_balanced beforeFree afterFree
  have page := pageSetup_balanced placesFree bandsFree
  have pagination : Balanced (paginationSetup style) := by
    unfold paginationSetup
    split
    · exact .literal (by decide)
    · decide
  have code : Balanced (codeBlockStyling style) := by
    have block : Balanced blockCodeStyle := .append (.literal (by decide)) (.literal (by decide))
    have inline : Balanced inlineCodeStyle := .append (.literal (by decide)) (.literal (by decide))
    unfold codeBlockStyling
    split
    · exact block.append inline
    · decide
  have numbering : Balanced (headingNumbering style titleMode) := by
    have titleAware : Balanced titleAwareNumbering :=
      .append (.append (.literal (by decide)) (.literal (by decide))) (.literal (by decide))
    unfold headingNumbering
    split
    · decide
    · split
      · exact titleAware
      · exact .literal (by decide)
  exact ((((font.append pagination).append spacing).append code).append page).append numbering

end Markup
end Compositor
