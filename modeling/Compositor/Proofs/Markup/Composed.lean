import Compositor.Markup.Preamble
import Compositor.Proofs.Text.Squeeze
import Mathlib.Data.List.Basic

/-! A preamble as segments. The six cells of header and footer have tokens for logos, and a band
that is left out has none. What is set apart from the logos does not depend on the directories, so
the images in a preamble are those of the tokens, in their order. -/

namespace Compositor.Markup

open Text

structure LogoToken where
  path : Path
  height : Option Text

def Segment.token? : Segment → Option LogoToken
  | .logo path height => some ⟨path, height⟩
  | _ => none

def cellTokens (text : Text) : List LogoToken := (cellSegments text).filterMap Segment.token?

theorem cellCopies_tokens (places : Places) (text : Text) :
    cellCopies places text = (cellTokens text).map fun token => logoCopy places token.path := by
  rw [cellCopies, cellTokens, List.map_filterMap]
  congr 1
  funext segment
  cases segment <;> rfl

def bandTexts (band : PageBand) : List Text := band.cells.map (·.getD [])

/-- The texts of the six cells, those of the header first; a cell that is missing is empty. -/
def cellTexts (style : DocumentStyle) : List Text :=
  [style.header, style.footer].flatMap fun band => bandTexts (band.getD {})

def logoTokens (style : DocumentStyle) : List LogoToken := (cellTexts style).flatMap cellTokens

/-! Empty bands have no tokens, so leaving them out changes nothing. -/

theorem cellSegments_empty : cellSegments [] = [] := by decide +kernel

theorem cellTokens_empty : cellTokens [] = [] := by
  rw [cellTokens, cellSegments_empty]
  rfl

theorem isEmpty_iff (band : PageBand) : band.isEmpty = true ↔ ∀ text ∈ bandTexts band, text = [] := by
  simp only [PageBand.isEmpty, bandTexts, List.all_eq_true, List.isEmpty_iff, List.mem_map,
    forall_exists_index, and_imp, forall_apply_eq_imp_iff₂]

def configured (name : Text) (band : Option PageBand) : List (Text × PageBand) :=
  (band.toList.filter (! ·.isEmpty)).map fun band => (name, band)

theorem pageBands_eq (style : DocumentStyle) :
    style.pageBands = configured "header" style.header ++ configured "footer" style.footer := by
  unfold DocumentStyle.pageBands
  generalize ("header" : Text) = first, ("footer" : Text) = second
  cases style.header with
  | none =>
      cases style.footer with
      | none => rfl
      | some footer => cases empty : footer.isEmpty <;> simp [configured, empty]
  | some header =>
      cases style.footer with
      | none => cases empty : header.isEmpty <;> simp [configured, empty]
      | some footer =>
          cases empty : header.isEmpty <;> cases emptyToo : footer.isEmpty <;>
            simp [configured, empty, emptyToo]

theorem configured_eq_nil_iff (name : Text) (band : Option PageBand) :
    configured name band = [] ↔ ∀ text ∈ bandTexts (band.getD {}), text = [] := by
  rw [← isEmpty_iff]
  cases band with
  | none => exact iff_of_true rfl rfl
  | some band => simp [configured]

theorem configured_flatMap (name : Text) (band : Option PageBand) {Item : Type}
    {items : Text → List Item} (empty : items [] = []) :
    ((configured name band).flatMap fun (_, band) => (bandTexts band).flatMap items) =
      (bandTexts (band.getD {})).flatMap items := by
  by_cases none : configured name band = []
  · have blank := (configured_eq_nil_iff name band).mp none
    rw [none, List.flatMap_nil, eq_comm, List.flatMap_eq_nil_iff]
    intro text member
    rw [blank text member, empty]
  · cases band with
    | none => exact absurd rfl none
    | some band =>
        have shown : band.isEmpty = false := by simpa [configured] using none
        simp [configured, shown]

theorem pageBands_flatMap (style : DocumentStyle) {Item : Type} {items : Text → List Item}
    (empty : items [] = []) :
    (style.pageBands.flatMap fun (_, band) => (bandTexts band).flatMap items) =
      (cellTexts style).flatMap items := by
  rw [pageBands_eq, List.flatMap_append, configured_flatMap _ _ empty,
    configured_flatMap _ _ empty]
  simp only [cellTexts, List.flatMap_cons, List.flatMap_nil, List.flatMap_append, List.append_nil]

theorem hasPageBands_eq_false_iff (style : DocumentStyle) :
    style.hasPageBands = false ↔ ∀ text ∈ cellTexts style, text = [] := by
  have none : style.hasPageBands = false ↔ style.pageBands = [] := by
    simp [DocumentStyle.hasPageBands]
  rw [none, pageBands_eq, List.append_eq_nil_iff, configured_eq_nil_iff, configured_eq_nil_iff]
  simp only [cellTexts, List.flatMap_cons, List.flatMap_nil, List.append_nil, List.mem_append,
    or_imp, forall_and]

theorem logoTokens_eq_nil {style : DocumentStyle} (none : style.hasPageBands = false) :
    logoTokens style = [] := by
  refine List.flatMap_eq_nil_iff.mpr fun text member => ?_
  rw [(hasPageBands_eq_false_iff style).mp none text member, cellTokens_empty]

theorem bandCopies_tokens (places : Places) (style : DocumentStyle) :
    bandCopies places style = (logoTokens style).map fun token => logoCopy places token.path := by
  have none : cellCopies places [] = [] := by
    rw [cellCopies_tokens, cellTokens_empty, List.map_nil]
  have bands : bandCopies places style = (cellTexts style).flatMap (cellCopies places) := by
    rw [← pageBands_flatMap style none]
    simp only [bandCopies, bandTexts, List.flatMap_map]
  rw [bands, logoTokens, List.map_flatMap]
  exact List.flatMap_congr fun text _ => cellCopies_tokens places text

/-! What is set in given places, as segments. -/

/-- The text consists of segments that do not depend on the places, and the logos among them are
the tokens. -/
def Composed (tokens : List LogoToken) (markup : Places → Text) : Prop :=
  ∃ segments : List Segment, segments.filterMap Segment.token? = tokens ∧
    ∀ places, markup places = segments.flatMap (Segment.markup places)

namespace Composed

variable {tokens : List LogoToken} {markup : Places → Text}

theorem literal (text : Text) : Composed [] fun _ => text :=
  ⟨[.literal text], rfl, fun _ => (List.append_nil text).symm⟩

theorem append {more : List LogoToken} {behind : Places → Text} (first : Composed tokens markup)
    (second : Composed more behind) :
    Composed (tokens ++ more) fun places => markup places ++ behind places := by
  obtain ⟨segments, rfl, same⟩ := first
  obtain ⟨others, rfl, sameBehind⟩ := second
  refine ⟨segments ++ others, List.filterMap_append, fun places => ?_⟩
  simp only [List.flatMap_append, same, sameBehind]

theorem after (composed : Composed tokens markup) (before : Text) :
    Composed tokens fun places => before ++ markup places :=
  (literal before).append composed

theorem before (composed : Composed tokens markup) (behind : Text) :
    Composed tokens fun places => markup places ++ behind := by
  have both := composed.append (literal behind)
  rwa [List.append_nil] at both

theorem join {Item : Type} (separator : Text) (items : List Item)
    {itemTokens : Item → List LogoToken} {itemMarkup : Places → Item → Text}
    (each : ∀ item, Composed (itemTokens item) fun places => itemMarkup places item) :
    Composed (items.flatMap itemTokens) fun places =>
      Text.join separator (items.map (itemMarkup places)) := by
  induction items with
  | nil => exact literal []
  | cons item items ih =>
      cases items with
      | nil =>
          rw [List.flatMap_singleton]
          exact each item
      | cons next items => exact ((each item).before separator).append ih

theorem occurs (composed : Composed tokens markup) {places : Places} {piece : LogoToken → Text}
    (each : ∀ token, OccursInOrder [piece token] (logoMarkup places token.path token.height)) :
    OccursInOrder (tokens.map piece) (markup places) := by
  obtain ⟨segments, rfl, same⟩ := composed
  rw [same, List.map_filterMap, List.filterMap_eq_flatMap_toList]
  refine OccursInOrder.flatMap fun segment _ => ?_
  cases segment with
  | logo path height => exact each ⟨path, height⟩
  | _ => trivial

theorem congr (composed : Composed tokens markup) {first second : Places}
    (same : ∀ token ∈ tokens, ∀ height,
      logoMarkup first token.path height = logoMarkup second token.path height) :
    markup first = markup second := by
  obtain ⟨segments, rfl, made⟩ := composed
  rw [made, made]
  refine List.flatMap_congr fun segment member => ?_
  cases segment with
  | logo path height => exact same ⟨path, height⟩ (List.mem_filterMap.mpr ⟨_, member, rfl⟩) height
  | _ => rfl

end Composed

theorem gridCell_composed (cell : Option Text) :
    Composed (cellTokens (cell.getD [])) fun places => gridCell places cell := by
  have resolved (text : Text) :
      Composed (cellTokens text) fun places => (resolveCell places text).markup :=
    ⟨cellSegments text, rfl, fun _ => rfl⟩
  match cell with
  | none =>
    rw [Option.getD_none, cellTokens_empty]
    exact Composed.literal "[]"
  | some [] =>
    rw [Option.getD_some, cellTokens_empty]
    exact Composed.literal "[]"
  | some (character :: text) =>
    cases deferred : (cellSegments (character :: text)).any Segment.isDeferred with
    | true =>
        have display (places : Places) : gridCell places (some (character :: text)) =
            "context [" ++ (resolveCell places (character :: text)).markup ++ "]" := by
          have same : (resolveCell places (character :: text)).deferred = true := deferred
          simp only [gridCell, ResolvedCell.gridCell, ResolvedCell.display, same, if_true]
        simp only [display]
        exact ((resolved _).after _).before _
    | false =>
        have display (places : Places) : gridCell places (some (character :: text)) =
            "[" ++ (resolveCell places (character :: text)).markup ++ "]" := by
          have same : (resolveCell places (character :: text)).deferred = false := deferred
          simp only [gridCell, ResolvedCell.gridCell, same, Bool.false_eq_true, if_false]
        simp only [display]
        exact ((resolved _).after _).before _

theorem pageBand_composed (name : Text) (band : PageBand) :
    Composed ((bandTexts band).flatMap cellTokens) fun places => pageBand places name band := by
  have left := gridCell_composed band.left
  have center := gridCell_composed band.center
  have right := gridCell_composed band.right
  have tokens : (bandTexts band).flatMap cellTokens = cellTokens (band.left.getD []) ++
      cellTokens (band.center.getD []) ++ cellTokens (band.right.getD []) := by
    simp [bandTexts, PageBand.cells]
  rw [tokens]
  unfold pageBand
  exact (((((left.after _).before _).append center).before _).append right).before _

theorem pageSetup_eq (places : Places) (style : DocumentStyle) :
    pageSetup places style = if style.hasPageBands then
      "#set page(\n" ++ join ",\n" (style.pageBands.map fun part => pageBand places part.1 part.2) ++
        "\n)\n\n" else [] := by
  unfold pageSetup DocumentStyle.hasPageBands
  cases style.pageBands <;> rfl

theorem pageSetup_composed (style : DocumentStyle) :
    Composed (logoTokens style) fun places => pageSetup places style := by
  have bands := Composed.join ",\n" style.pageBands fun part => pageBand_composed part.1 part.2
  rw [pageBands_flatMap style cellTokens_empty] at bands
  simp only [pageSetup_eq]
  cases shown : style.hasPageBands with
  | true => exact (bands.after _).before _
  | false =>
      rw [logoTokens_eq_nil shown]
      exact Composed.literal []

theorem preamble_composed (style : DocumentStyle) (titleMode : Bool) :
    Composed (logoTokens style) fun places => preamble places style titleMode := by
  have setup := pageSetup_composed style
  unfold preamble
  exact ((setup.after _)).before _

end Compositor.Markup
