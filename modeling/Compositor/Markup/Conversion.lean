import Compositor.Markup.Group
import Compositor.Markup.Preamble

/-! A whole document as markup. Nothing is read or written; the copies that the markup relies on
are part of the result. -/

namespace Compositor.Markup

structure Conversion where
  markup : Text
  assets : List AssetCopy

def convert (setting : Setting) (nodes : List Node) : Conversion :=
  let titleMode := setting.style.titleMode nodes
  { markup := preamble setting.toPlaces setting.style titleMode ++
      (body setting titleMode nodes {}).1
    assets := bandCopies setting.toPlaces setting.style }

end Compositor.Markup
