import Compositor.Proofs.Markup.Composed
import Compositor.Proofs.Text.Literal

/-! The string literals of a preamble: the font, and the logos in the page header and footer. The
logos are those whose copies are queued, in the same order. -/

namespace Compositor.Markup

open Text

def fontLiteral (font : Text) : Literal where
  opening := "#set text(font: \""
  value := fontName font
  closing := ")\n\n"

/-- The path in the literal leads to the copy, as seen from where the markup is written. -/
def logoLiteral (output : Path) (copy : AssetCopy) : Literal where
  opening := "#image(\""
  value := Path.relativeTo copy.destination output
  closing := ", height: "

def preambleLiterals (places : Places) (style : DocumentStyle) : List Literal :=
  style.font.toList.map fontLiteral ++ (bandCopies places style).map (logoLiteral places.output)

section Logos

variable {places : Places}

def cellLogos (text : Text) : List Path := (cellTokens text).map (·.path)

def bandLogos (style : DocumentStyle) : List Path := (logoTokens style).map (·.path)

theorem mem_bandCopies {style : DocumentStyle} {copy : AssetCopy} :
    copy ∈ bandCopies places style ↔ ∃ path ∈ bandLogos style, logoCopy places path = copy := by
  rw [bandCopies_tokens]
  simp only [bandLogos, List.mem_map, exists_exists_and_eq_and]

theorem logoMarkup_written (path : Path) (height : Option Text) :
    logoMarkup places path height =
      (logoLiteral places.output (logoCopy places path)).written ++ (height.getD "1em" ++ ")") := by
  have quote : ("\", height: " : Text) = '"' :: (", height: " : Text) := by decide
  unfold logoMarkup logoLiteral Literal.written
  rw [quote]
  simp only [List.append_assoc, List.cons_append]

theorem pageSetup_written (style : DocumentStyle) :
    OccursInOrder (((bandCopies places style).map (logoLiteral places.output)).map Literal.written)
      (pageSetup places style) := by
  rw [bandCopies_tokens, List.map_map, List.map_map]
  refine (pageSetup_composed style).occurs fun token => ?_
  rw [logoMarkup_written]
  exact (OccursInOrder.self _).extend _

end Logos

theorem fontSetup_written (style : DocumentStyle) :
    OccursInOrder ((style.font.toList.map fontLiteral).map Literal.written) (fontSetup style) := by
  have quote : ("\")\n\n" : Text) = '"' :: (")\n\n" : Text) := by decide
  unfold fontSetup
  cases style.font with
  | none => trivial
  | some font =>
      rw [quote]
      exact OccursInOrder.self _

theorem preamble_written (places : Places) (style : DocumentStyle) (titleMode : Bool) :
    OccursInOrder ((preambleLiterals places style).map Literal.written)
      (preamble places style titleMode) := by
  have font := fontSetup_written style
  have logos := @pageSetup_written places style
  rw [preambleLiterals, List.map_append]
  unfold preamble
  exact ((((font.extend _).extend _).extend _).append logos).extend _

end Compositor.Markup
