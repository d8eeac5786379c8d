import Compositor.Markdown.Escape
import Compositor.Text.CaseFold

/-! Link labels, destinations and titles, and the definitions of link references. -/

namespace Compositor.Markdown

def readLabelFrom? (size : Nat) : Text → Option (Text × Text)
  | [] => none
  | '[' :: _ => none
  | ']' :: rest => if size ≤ 1000 then some ([], rest) else none
  | '\\' :: character :: rest =>
      if 1000 < size then none
      else if Text.isAsciiPunctuation character then
        (readLabelFrom? (size + 2) rest).map fun (label, rest) => ('\\' :: character :: label, rest)
      else (readLabelFrom? (size + 1) (character :: rest)).map fun (label, rest) => ('\\' :: label, rest)
  | character :: rest =>
      if 1000 < size then none
      else (readLabelFrom? (size + character.utf8Size) rest).map fun (label, rest) =>
        (character :: label, rest)
  termination_by text => text.length

def readLabel? : Text → Option (Text × Text)
  | '[' :: rest => (readLabelFrom? 0 rest).map fun (label, rest) => (trimSpace label, rest)
  | _ => none

def collapseBlanks : (afterBlank : Bool) → Text → Text
  | _, [] => []
  | afterBlank, character :: text =>
      if Text.isBlank character then
        if afterBlank then collapseBlanks true text else ' ' :: collapseBlanks true text
      else character :: collapseBlanks false text

def normalizeLabel (label : Text) : Text := Text.foldCase (collapseBlanks false (trimSpace label))

def readBracketed? : Text → Option (Text × Text)
  | '>' :: rest => some ([], rest)
  | '\\' :: character :: rest =>
      (readBracketed? rest).map fun (url, rest) => ('\\' :: character :: url, rest)
  | character :: rest =>
      if character = '\n' ∨ character = '<' then none
      else (readBracketed? rest).map fun (url, rest) => (character :: url, rest)
  | [] => none

def readBare? (nesting : Nat) : Text → Option (Text × Text)
  | [] => none
  | '\\' :: character :: rest =>
      if Text.isAsciiPunctuation character then
        (readBare? nesting rest).map fun (url, rest) => ('\\' :: character :: url, rest)
      else (readBare? nesting (character :: rest)).map fun (url, rest) => ('\\' :: url, rest)
  | character :: rest =>
      if character = '(' then
        if 32 ≤ nesting then none
        else (readBare? (nesting + 1) rest).map fun (url, rest) => ('(' :: url, rest)
      else if character = ')' then
        match nesting with
        | 0 => some ([], ')' :: rest)
        | nesting + 1 => (readBare? nesting rest).map fun (url, rest) => (')' :: url, rest)
      else if isSpace character || isControl character then
        if nesting = 0 then some ([], character :: rest) else none
      else (readBare? nesting rest).map fun (url, rest) => (character :: url, rest)
  termination_by text => text.length

def readDestination? : Text → Option (Text × Text)
  | '<' :: text =>
      match readBracketed? text with
      | some (_, []) => none
      | found => found
  | [] => none
  | character :: text =>
      if isSpace character || isControl character then none else readBare? 0 (character :: text)

/-- What follows the longest title that ends with `close`. A closing mark after a backslash need
not end the title; inside parentheses neither mark stands alone. -/
def readTitleEnd? (opening closing : Char) (escaped : Bool) : Text → Option Text
  | [] => none
  | character :: text =>
      if character = closing then
        if escaped then readTitleEnd? opening closing false text <|> some text else some text
      else if character = opening ∧ !escaped then none
      else readTitleEnd? opening closing (character = '\\') text

def readTitle? : Text → Option Text
  | '"' :: text => readTitleEnd? '"' '"' false text
  | '\'' :: text => readTitleEnd? '\'' '\'' false text
  | '(' :: text => readTitleEnd? '(' ')' false text
  | _ => none

def skipLineBreak (text : Text) : Text :=
  match dropSpacesAndTabs text with
  | '\n' :: rest => dropSpacesAndTabs rest
  | rest => rest

def readLineEnd? (text : Text) : Option Text :=
  match dropSpacesAndTabs text with
  | [] => some []
  | '\n' :: rest => some rest
  | _ => none

/-- The destination that a label stands for; of several definitions the first counts. -/
structure Definition where
  label : Text
  url : Text

/-- What follows the title of a definition and the end of its line. A title that does not end its
line is no title. -/
def readDefinitionEnd? (text : Text) : Option Text :=
  let afterBreak := skipLineBreak text
  let titled := if afterBreak.length = text.length then none
    else (readTitle? afterBreak).bind readLineEnd?
  titled <|> readLineEnd? text

def readDefinition? (text : Text) : Option (Definition × Text) :=
  match readLabel? text with
  | some (label, ':' :: rest) =>
      if label.isEmpty then none
      else match readDestination? (skipLineBreak rest) with
        | some (url, rest) =>
            (readDefinitionEnd? rest).map fun rest =>
              (⟨normalizeLabel label, cleanUrl url⟩, rest)
        | none => none
  | _ => none

def readDefinitions : (fuel : Nat) → Text → List Definition × Text
  | 0, text => ([], text)
  | fuel + 1, text =>
      match readDefinition? text with
      | some (definition, rest) =>
          let (definitions, rest) := readDefinitions fuel rest
          (definition :: definitions, rest)
      | none => ([], text)

def lookupDefinition? (definitions : List Definition) (label : Text) : Option Text :=
  let label := normalizeLabel label
  if label.isEmpty then none
  else (definitions.find? (·.label == label)).map Definition.url

end Compositor.Markdown
