import Compositor.Document.Style
import Compositor.Path.Basic

/-! What the markup of a document depends on besides its nodes. -/

namespace Compositor

structure AssetCopy where
  source : Path
  destination : Path
  deriving DecidableEq

namespace Markup

structure Places where
  /-- Where the markup is written; images are named as seen from here. -/
  output : Path := "."
  source : Path := "."
  assets : Text := "diagrams"

structure Setting extends Places where
  /-- The rendered diagrams in document order; those that failed are missing. -/
  diagrams : List RenderedDiagram := []
  style : DocumentStyle := {}

end Markup
end Compositor
