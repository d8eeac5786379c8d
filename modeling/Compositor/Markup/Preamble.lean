import Compositor.Markup.Cell

/-! The directives before the body of a document, each followed by an empty line: font, blocks
that stick together, heading spacing, code blocks, page header and footer, heading numbers. -/

namespace Compositor.Markup

/-- The font that a name stands for. Only ASCII letters have lower-case forms among the letters of
the two short names. -/
def fontName (font : Text) : Text :=
  let name := font.map Char.toLower
  if name = "serif".toList then "New Computer Modern"
  else if name = "sans".toList ∨ name = "sans-serif".toList then "New Computer Modern Sans"
  else font

def fontSetup (style : DocumentStyle) : Text :=
  match style.font with
  | some font => "#set text(font: \"" ++ fontName font ++ "\")\n\n"
  | none => []

def paginationSetup (style : DocumentStyle) : Text :=
  if style.preventHeadingOrphans then "#set block(sticky: true)\n\n" else []

def spacingSide (name : Text) : (length : Option Text) → List Text
  | some length => [name ++ ": " ++ length]
  | none => []

def headingSpacing (style : DocumentStyle) : Text :=
  let sides := spacingSide "above" style.headingSpacing.before ++
    spacingSide "below" style.headingSpacing.after
  if sides.isEmpty then []
  else "#show heading: set block(" ++ Text.join ", " sides ++ ")\n\n"

def blockCodeStyle : Text :=
  "#show raw.where(block: true): block.with(\n  fill: luma(240),\n  inset: 10pt,\n" ++
    "  radius: 4pt,\n)\n\n"

def inlineCodeStyle : Text :=
  "#show raw.where(block: false): box.with(\n  fill: luma(240),\n  inset: (x: 3pt, y: 0pt),\n" ++
    "  outset: (y: 3pt),\n  radius: 2pt,\n)\n\n"

def codeBlockStyling (style : DocumentStyle) : Text :=
  if style.styleCodeBlocks then blockCodeStyle ++ inlineCodeStyle else []

def gridCell (places : Places) : (cell : Option Text) → Text
  | some (character :: text) => (resolveCell places (character :: text)).gridCell
  | _ => "[]"

def pageBand (places : Places) (name : Text) (band : PageBand) : Text :=
  "  " ++ name ++ ": grid(\n    columns: (1fr, 1fr, 1fr),\n" ++
    "    align: (left + horizon, center + horizon, right + horizon),\n    " ++
    gridCell places band.left ++ ",\n    " ++ gridCell places band.center ++ ",\n    " ++
    gridCell places band.right ++ "\n  )"

def pageSetup (places : Places) (style : DocumentStyle) : Text :=
  let bands := style.pageBands.map fun (name, band) => pageBand places name band
  if bands.isEmpty then []
  else "#set page(\n" ++ Text.join ",\n" bands ++ "\n)\n\n"

def titleAwareNumbering : Text :=
  r"#set heading(numbering: (..nums) => {
  if nums.pos().len() == 1 {
    none
" ++ r#"  } else {
    numbering("1.1", ..nums.pos().slice(1))
  }
})

"# ++ "#show heading.where(level: 1): set heading(hanging-indent: 0pt)\n\n"

def headingNumbering (style : DocumentStyle) (titleMode : Bool) : Text :=
  if !style.numberedHeadings then []
  else if titleMode then titleAwareNumbering
  else "#set heading(numbering: \"1.1\")\n\n"

def preamble (places : Places) (style : DocumentStyle) (titleMode : Bool) : Text :=
  fontSetup style ++ paginationSetup style ++ headingSpacing style ++ codeBlockStyling style ++
    pageSetup places style ++ headingNumbering style titleMode

def bandCopies (places : Places) (style : DocumentStyle) : List AssetCopy :=
  style.pageBands.flatMap fun (_, band) => band.cells.flatMap fun cell =>
    cellCopies places (cell.getD [])

end Compositor.Markup
