import Compositor.Document.Outline

/-! How a document looks: the choices that its frontmatter makes. -/

namespace Compositor

inductive TitleMode where
  | on
  | off
  | auto
  deriving DecidableEq

structure HeadingSpacing where
  before : Option Text := some "2.5em"
  after : Option Text := some "1.5em"
  deriving DecidableEq

def HeadingSpacing.isDisabled (spacing : HeadingSpacing) : Bool :=
  spacing.before.isNone && spacing.after.isNone

structure PageBand where
  left : Option Text := none
  center : Option Text := none
  right : Option Text := none
  deriving DecidableEq

def PageBand.cells (band : PageBand) : List (Option Text) := [band.left, band.center, band.right]

def PageBand.isEmpty (band : PageBand) : Bool := band.cells.all fun cell => (cell.getD []).isEmpty

structure DocumentStyle where
  title : Option Text := none
  author : Option Text := none
  date : Option Text := none
  numberedHeadings : Bool := false
  tocDepth : UInt32 := 3
  font : Option Text := none
  preventHeadingOrphans : Bool := true
  styleCodeBlocks : Bool := true
  topLevelTitle : TitleMode := .auto
  /-- The deepest heading that starts a page. -/
  pageBreakLevel : Option UInt8 := some 2
  headingSpacing : HeadingSpacing := {}
  keepCodeWithPrevious : Bool := true
  header : Option PageBand := none
  footer : Option PageBand := none
  deriving DecidableEq

namespace DocumentStyle

def pageBands (style : DocumentStyle) : List (Text × PageBand) :=
  [(("header" : Text), style.header), (("footer" : Text), style.footer)].filterMap
    fun (name, band?) => match band? with
      | some band => if band.isEmpty then none else some (name, band)
      | none => none

def hasPageBands (style : DocumentStyle) : Bool := !style.pageBands.isEmpty

def titleMode (style : DocumentStyle) (nodes : List Node) : Bool :=
  match style.topLevelTitle with
  | .on => true
  | .off => false
  | .auto => Node.hasTitle nodes

end DocumentStyle
end Compositor
