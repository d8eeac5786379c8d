import Compositor.Document.Frontmatter
import Compositor.Markdown.Article
import Compositor.Markup.Conversion

/-! A Markdown article as markup. -/

namespace Compositor.Markup

/-- Converts a source. Its frontmatter decides the style, and not the one in the setting. -/
def convertSource (setting : Setting) (source : Text) : Conversion :=
  let nodes := Markdown.parse source
  convert { setting with style := Frontmatter.ofText (Node.frontMatter? nodes) } nodes

end Compositor.Markup
