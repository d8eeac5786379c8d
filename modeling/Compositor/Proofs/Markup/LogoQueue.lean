import Compositor.Markup.Conversion
import Compositor.Proofs.Markup.Composed

/-! The logos of a document in its two outputs. The queue of copies and the page header and footer
come from the same tokens of the same cells, in the same order. -/

namespace Compositor.Markup

open Text

def logoImage (output : Path) (copy : AssetCopy) (height : Option Text) : Text :=
  "#image(\"" ++ Path.relativeTo copy.destination output ++ "\", height: " ++
    height.getD "1em" ++ ")"

/-! The directives of a preamble. -/

/-- The parts of a preamble that are not empty, in order; the page directive is the fifth. -/
def directives (places : Places) (style : DocumentStyle) (titleMode : Bool) : List Text :=
  [fontSetup style, paginationSetup style, headingSpacing style, codeBlockStyling style,
    pageSetup places style, headingNumbering style titleMode].filter (! ·.isEmpty)

theorem preamble_directives (places : Places) (style : DocumentStyle) (titleMode : Bool) :
    preamble places style titleMode = (directives places style titleMode).flatten := by
  unfold preamble directives
  rw [List.flatten_filter_not_isEmpty]
  simp

def setsPage (directive : Text) : Bool := startsWith "#set page(" directive

theorem fontSetup_setsPage (style : DocumentStyle) : setsPage (fontSetup style) = false := by
  unfold fontSetup
  cases style.font with
  | none => rfl
  | some font => rfl

theorem paginationSetup_setsPage (style : DocumentStyle) :
    setsPage (paginationSetup style) = false := by
  unfold paginationSetup
  split <;> rfl

theorem headingSpacing_setsPage (style : DocumentStyle) :
    setsPage (headingSpacing style) = false := by
  simp only [headingSpacing]
  split <;> rfl

theorem codeBlockStyling_setsPage (style : DocumentStyle) :
    setsPage (codeBlockStyling style) = false := by
  unfold codeBlockStyling
  split <;> rfl

theorem headingNumbering_setsPage (style : DocumentStyle) (titleMode : Bool) :
    setsPage (headingNumbering style titleMode) = false := by
  unfold headingNumbering
  split
  · rfl
  · split <;> rfl

theorem pageSetup_setsPage (places : Places) (style : DocumentStyle) :
    setsPage (pageSetup places style) = style.hasPageBands := by
  rw [pageSetup_eq]
  cases style.hasPageBands <;> rfl

theorem directives_setsPage (places : Places) (style : DocumentStyle) (titleMode : Bool) :
    (directives places style titleMode).countP setsPage = style.hasPageBands.toNat := by
  have filled (directive : Text) :
      (setsPage directive && ! directive.isEmpty) = setsPage directive := by
    cases directive with
    | nil => rfl
    | cons character directive => exact Bool.and_true _
  rw [directives, List.countP_filter]
  simp only [filled, List.countP_cons, List.countP_nil, fontSetup_setsPage,
    paginationSetup_setsPage, headingSpacing_setsPage, codeBlockStyling_setsPage,
    headingNumbering_setsPage, pageSetup_setsPage]
  cases style.hasPageBands <;> rfl

structure LogosAgree (setting : Setting) (nodes : List Node) : Prop where
  queued : (convert setting nodes).assets.map (·.source) =
    (logoTokens setting.style).map fun token => Path.join setting.source token.path
  shown : OccursInOrder
    (List.zipWith (logoImage setting.output) (convert setting nodes).assets
      ((logoTokens setting.style).map (·.height)))
    (convert setting nodes).markup
  /-- No other logo is shown. -/
  composed : Composed (logoTokens setting.style) fun places =>
    preamble places setting.style (setting.style.titleMode nodes)
  directives : (convert setting nodes).markup =
    (directives setting.toPlaces setting.style (setting.style.titleMode nodes)).flatten ++
      (body setting (setting.style.titleMode nodes) nodes {}).1
  /-- The page is set once, for the bands that are reported, or not at all. -/
  pageSet : (Markup.directives setting.toPlaces setting.style
    (setting.style.titleMode nodes)).countP setsPage = setting.style.hasPageBands.toNat
  noBands : setting.style.hasPageBands = false ↔ ∀ text ∈ cellTexts setting.style, text = []
  noAssets : setting.style.hasPageBands = false → (convert setting nodes).assets = []
  independent : ∀ (diagrams : List RenderedDiagram) (others : List Node),
    (convert { setting with diagrams := diagrams } others).assets = (convert setting nodes).assets

end Compositor.Markup
