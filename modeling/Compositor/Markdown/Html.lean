import Compositor.Markdown.Character

/-! Raw HTML: tags, comments and the like inside a line, and the lines that start and end a block
of HTML. -/

namespace Compositor.Markdown.Html

def isLetter (character : Char) : Bool := character.isAlpha

def isTagCharacter (character : Char) : Bool := character.isAlphanum || character == '-'

def isNameStart (character : Char) : Bool :=
  character.isAlpha || character == '_' || character == ':'

def isNameCharacter (character : Char) : Bool :=
  character.isAlphanum || character == '_' || character == ':' || character == '.' ||
    character == '-'

def isUnquoted (character : Char) : Bool :=
  !isSpace character && character ∉ "\"'=<>\x60".toList

def readValue? : Text → Option Text
  | [] => none
  | mark :: text =>
      if mark = '"' ∨ mark = '\'' then
        match text.dropWhile (· != mark) with
        | _ :: rest => some rest
        | [] => none
      else if isUnquoted mark then some (text.dropWhile isUnquoted)
      else none

def readAssignment (text : Text) : Text :=
  match trimSpaceStart text with
  | '=' :: rest => (readValue? (trimSpaceStart rest)).getD text
  | _ => text

def readAttribute? (text : Text) : Option Text :=
  match text with
  | [] => none
  | character :: _ =>
      if !isSpace character then none
      else match trimSpaceStart text with
        | [] => none
        | start :: rest =>
            if isNameStart start then some (readAssignment (rest.dropWhile isNameCharacter))
            else none

def readAttributes : (fuel : Nat) → Text → Text
  | 0, text => text
  | fuel + 1, text =>
      match readAttribute? text with
      | some rest => readAttributes fuel rest
      | none => text

def readTagEnd? (text : Text) : Option Text :=
  match trimSpaceStart text with
  | '>' :: rest => some rest
  | '/' :: '>' :: rest => some rest
  | _ => none

def readTag? : Text → Option Text
  | '/' :: start :: text =>
      if isLetter start then
        match trimSpaceStart (text.dropWhile isTagCharacter) with
        | '>' :: rest => some rest
        | _ => none
      else none
  | start :: text =>
      if isLetter start then
        let text := text.dropWhile isTagCharacter
        readTagEnd? (readAttributes text.length text)
      else none
  | [] => none

/-- What follows a comment, read after its opening dashes. Dashes inside are passed alone with the
character after them, or in pairs with it. -/
def readCommentBody? : Text → Option Text
  | '-' :: '-' :: '>' :: rest => some rest
  | '-' :: '-' :: _ :: text => readCommentBody? text
  | '-' :: '-' :: [] => none
  | '-' :: _ :: text => readCommentBody? text
  | '-' :: [] => none
  | _ :: text => readCommentBody? text
  | [] => none

inductive Form where
  | closed (rest : Text)
  | unclosedComment
  | other

def readMarked : Text → Form
  | '-' :: '-' :: '>' :: rest => .closed rest
  | '-' :: '-' :: '-' :: '>' :: rest => .closed rest
  | '-' :: '-' :: text =>
      match readCommentBody? text with
      | some rest => .closed rest
      | none => .unclosedComment
  | '[' :: text =>
      match Text.stripStart? "CDATA[" text with
      | some text =>
          match Text.cut? "]]>" text with
          | some (_, rest) => .closed rest
          | none => .other
      | none => .other
  | start :: text =>
      if isLetter start then
        match text.dropWhile (· != '>') with
        | _ :: rest => .closed rest
        | [] => .other
      else .other
  | [] => .other

def readInstruction? (text : Text) : Option Text := (Text.cut? "?>" text).map Prod.snd

inductive Closing where
  | atText (texts : List Text)
  | atBlank

def verbatimTags : List Text :=
  [("script" : Text), ("pre" : Text), ("textarea" : Text), ("style" : Text)]

def verbatimEnds : List Text := verbatimTags.map fun tag => "</" ++ tag ++ ">"

def blockTags : List String :=
  ["address", "article", "aside", "base", "basefont", "blockquote", "body", "caption", "center",
    "col", "colgroup", "dd", "details", "dialog", "dir", "div", "dl", "dt", "fieldset",
    "figcaption", "figure", "footer", "form", "frame", "frameset", "h1", "h2", "h3", "h4", "h5",
    "h6", "head", "header", "hr", "html", "iframe", "legend", "li", "link", "main", "menu",
    "menuitem", "nav", "noframes", "ol", "optgroup", "option", "p", "param", "search", "section",
    "summary", "table", "tbody", "td", "tfoot", "th", "thead", "title", "tr", "track", "ul"]

def lowerCase (text : Text) : Text := text.map Char.toLower

def stripTag? (tag text : Text) : Option Text :=
  if lowerCase (text.take tag.length) = tag then some (text.drop tag.length) else none

def endsTag : Text → Bool
  | [] => true
  | character :: _ => isSpace character || character == '>'

def endsBlockTag : Text → Bool
  | '/' :: '>' :: _ => true
  | rest => endsTag rest

def startsVerbatim (text : Text) : Bool :=
  verbatimTags.any fun tag => ((stripTag? tag text).map endsTag).getD false

def startsBlockTag (text : Text) : Bool :=
  let name := match text with
    | '/' :: name => name
    | name => name
  blockTags.any fun tag => ((stripTag? tag.toList name).map endsBlockTag).getD false

def isLoneTag (text : Text) : Bool :=
  match readTag? text with
  | some rest => rest.all fun character =>
      character == ' ' || character == '\t' || character == '\x0c'
  | none => false

/-- The end of the block of HTML that a line starts. A lone tag of any name does not interrupt a
paragraph. -/
def blockStart? (inParagraph : Bool) : (line : Text) → Option Closing
  | '<' :: text =>
      if startsVerbatim text then some (.atText verbatimEnds)
      else if Text.startsWith "!--" text then some (.atText ["-->"])
      else if Text.startsWith "?" text then some (.atText ["?>"])
      else if Text.startsWith "![CDATA[" text then some (.atText ["]]>"])
      else if startsBlockTag text then some .atBlank
      else match text with
        | '!' :: start :: _ => if isLetter start then some (.atText [">"]) else none
        | _ => if !inParagraph && isLoneTag text then some .atBlank else none
  | _ => none

def Closing.isMet (closing : Closing) (line : Text) : Bool :=
  match closing with
  | .atText texts => texts.any fun text => Text.contains text (lowerCase line)
  | .atBlank => false

end Compositor.Markdown.Html
