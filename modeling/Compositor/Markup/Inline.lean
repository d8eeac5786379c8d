import Compositor.Document.Node

/-! The markup of inline content. It depends on the nodes alone. -/

namespace Compositor.Markup

/-- A dollar sign would open math and an at sign a reference. -/
def escapeCharacter (character : Char) : Text :=
  if character = '$' ∨ character = '@' then ['\\', character] else [character]

def escapeText (text : Text) : Text := text.flatMap escapeCharacter

/-- A quote would close a string literal and a backslash changes the character after it. -/
def quoteCharacter (character : Char) : Text :=
  if character = '\\' ∨ character = '"' then ['\\', character] else [character]

def quoteText (text : Text) : Text := text.flatMap quoteCharacter

def imageFigure (url alt : Text) : Text :=
  "#figure(\n  image(\"" ++ quoteText url ++ "\"),\n  caption: [" ++ escapeText alt ++ "]\n)\n\n"

mutual
/-- Blocks have no markup in inline position, and raw HTML has none anywhere. -/
def inline : Node → Text
  | .text value => escapeText value
  | .emphasis children => "_" ++ inlines children ++ "_"
  | .strong children => "*" ++ inlines children ++ "*"
  | .strikethrough children => "#strike[" ++ inlines children ++ "]"
  | .inlineCode code => "`" ++ code ++ "`"
  | .link url children => "#link(\"" ++ quoteText url ++ "\")[" ++ inlines children ++ "]"
  | .image url alt => imageFigure url alt
  | .inlineMath formula => "$" ++ formula ++ "$"
  | .lineBreak => " \\\n"
  | .document _ | .heading _ _ | .paragraph _ | .codeBlock _ _ | .list _ _ | .listItem _
  | .blockQuote _ | .table _ | .tableRow _ | .tableCell _ | .thematicBreak | .raw _
  | .blockMath _ | .frontMatter _ => []

def inlines : List Node → Text
  | [] => []
  | node :: nodes => inline node ++ inlines nodes
end

end Compositor.Markup
