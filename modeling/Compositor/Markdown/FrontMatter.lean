import Compositor.Text.Basic

/-! The frontmatter of a source: the lines between two lines of three dashes at its start. -/

namespace Compositor.Markdown

def afterLineEnd? : Text → Option Text
  | '\n' :: rest => some rest
  | '\r' :: '\n' :: rest => some rest
  | _ => none

def dropByteOrderMark : Text → Text
  | '\uFEFF' :: text => text
  | text => text

/-- The frontmatter with its delimiters, and the source after it. A closing line that ends in a
carriage return and a line feed is looked for first. -/
def splitFrontMatter? (source : Text) : Option (Text × Text) :=
  let source := dropByteOrderMark source
  match (Text.stripStart? "---" source).bind afterLineEnd? with
  | none => none
  | some body =>
      match Text.cut? "\n---\r\n" body <|> Text.cut? "\n---\n" body with
      | none => none
      | some (_, rest) => some (source.take (source.length - rest.length), rest)

def dropDashes : Text → Text
  | '-' :: '-' :: '-' :: text => dropDashes text
  | text => text

def dropDashesEnd (text : Text) : Text := (dropDashes text.reverse).reverse

def stripDelimiters (text : Text) : Text :=
  Text.trim (dropDashesEnd (dropDashes (Text.trim text)))

end Compositor.Markdown
