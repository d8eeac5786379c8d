import Compositor.Yaml.Token

/-! The texts of scalars in their three ways of writing. -/

namespace Compositor.Yaml

/-- A gap between two words of a scalar as it is read: without line ends it stays, a single line
end is a space, and of several all but the first are kept. -/
def foldGap (gap : Text) : Text :=
  match gap.filter isBreak with
  | [] => gap
  | ['\n'] => [' ']
  | '\n' :: breaks => breaks
  | breaks => breaks

def columnAfter (gap : Text) : Nat := (gap.takeWhile (! isBreak ·)).length

def leadsToLineStart (gap : Text) : Bool := gap.head?.any isBreak

/-! Plain scalars. -/

def isFlowIndicator (character : Char) : Bool := character ∈ [',', '[', ']', '{', '}']

/-- Whether a plain scalar ends before a word: a colon before a gap ends it, and inside a flow
collection so do the indicators. -/
def endsPlain (flow : Bool) : Text → Bool
  | [] => true
  | character :: rest =>
      (character == ':' && startsGap rest) || (flow && isFlowIndicator character)

def hasStrayColon (flow : Bool) : Text → Bool
  | ':' :: next :: _ => flow && (next == '?' || isFlowIndicator next)
  | _ => false

/-- Whether the word after a gap cannot belong to a plain scalar: it is a comment, a document
marker, or not indented enough. -/
def endsAfterGap (flow : Bool) (indent : Nat) (gap text : Text) : Bool :=
  !gap.isEmpty &&
    (text.head? == some '#' || (leadsToLineStart gap && startsMarker text) ||
      (!flow && gap.any isBreak && columnAfter gap < indent))

structure PlainText where
  content : Text
  gap : Text
  rest : Text

/-- Reads a plain scalar; its content and the gap after that are collected from their ends. A tab
in the indentation of a further line is refused. -/
def readPlain? (flow : Bool) (indent : Nat) : (content gap text : Text) → Option PlainText
  | content, gap, [] => some ⟨content.reverse, gap, []⟩
  | content, gap, character :: text =>
      if isGap character then
        if character = '\t' ∧ gap.any isBreak ∧ columnAfter gap < indent then none
        else readPlain? flow indent content (character :: gap) text
      else if endsAfterGap flow indent gap (character :: text) ||
          endsPlain flow (character :: text) then
        some ⟨content.reverse, gap, character :: text⟩
      else if hasStrayColon flow (character :: text) then none
      else
        readPlain? flow indent (character :: ((foldGap gap.reverse).reverse ++ content)) [] text

/-! Quoted scalars. -/

def readSingleQuoted? : (content gap text : Text) → Option (Text × Text)
  | _, _, [] => none
  | content, gap, character :: text =>
      let joined := (foldGap gap.reverse).reverse ++ content
      if isGap character then readSingleQuoted? content (character :: gap) text
      else if leadsToLineStart gap && startsMarker (character :: text) then none
      else if character = '\'' then
        match text with
        | '\'' :: text => readSingleQuoted? ('\'' :: joined) [] text
        | text => some (joined.reverse, text)
      else readSingleQuoted? (character :: joined) [] text

def escaped? : Char → Option Char
  | '0' => some '\x00'
  | 'a' => some '\x07'
  | 'b' => some '\x08'
  | 't' | '\t' => some '\t'
  | 'n' => some '\n'
  | 'v' => some '\x0b'
  | 'f' => some '\x0c'
  | 'r' => some '\r'
  | 'e' => some '\x1b'
  | ' ' => some ' '
  | '"' => some '"'
  | '/' => some '/'
  | '\\' => some '\\'
  | 'N' => some '\u0085'
  | '_' => some '\u00a0'
  | 'L' => some '\u2028'
  | 'P' => some '\u2029'
  | _ => none

def escapeDigits : Char → Nat
  | 'x' => 2
  | 'u' => 4
  | 'U' => 8
  | _ => 0

def hexCharacter? (count : Nat) (digits : Text) : Option Char :=
  if digits.length = count then
    ((Text.numberInBase? 16 digits).filter Nat.isValidChar).map Char.ofNat
  else none

/-- A gap inside double quotes as it is read. After an escaped line end only further line ends
count. -/
def joinGap (continued : Bool) (gap : Text) : Text :=
  if continued then gap.filter isBreak else foldGap gap

/-- Reads a double quoted scalar. The gap is collected from its end; `continued` tells that an
escaped line end precedes it. -/
def readDoubleQuoted? (continued : Bool) (content gap : Text) : Text → Option (Text × Text)
  | [] => none
  | character :: text =>
      let joined := (joinGap continued gap.reverse).reverse ++ content
      if isGap character then readDoubleQuoted? continued content (character :: gap) text
      else if (leadsToLineStart gap || (continued && gap.isEmpty)) &&
          startsMarker (character :: text) then none
      else if character = '"' then some (joined.reverse, text)
      else if character = '\\' then
        match text with
        | [] => none
        | letter :: text =>
            if isBreak letter then readDoubleQuoted? true joined [] text
            else if escapeDigits letter = 0 then
              match escaped? letter with
              | some meant => readDoubleQuoted? false (meant :: joined) [] text
              | none => none
            else
              match hexCharacter? (escapeDigits letter) (text.take (escapeDigits letter)) with
              | some meant =>
                  readDoubleQuoted? false (meant :: joined) []
                    (text.drop (escapeDigits letter))
              | none => none
      else readDoubleQuoted? false (character :: joined) [] text
  termination_by text => text.length
  decreasing_by all_goals simp_wf; try omega

/-! Block scalars. -/

inductive Chomping where
  | strip
  | clip
  | keep

structure BlockHeader where
  chomping : Chomping := .clip
  /-- Spaces beyond the indentation of the parent, if they are given. -/
  indent : Option Nat := none

def readChomping? : Char → Option Chomping
  | '+' => some .keep
  | '-' => some .strip
  | _ => none

def readIndent? (digit : Char) : Option Nat :=
  (Text.digitValue? digit).filter fun indent => 0 < indent && indent < 10

/-- The indicators after `|` or `>`, in either order, and the rest. The digit zero is refused. -/
def readHeader : Text → BlockHeader × Text
  | first :: second :: text =>
      match readChomping? first, readIndent? first with
      | some chomping, _ =>
          match readIndent? second with
          | some indent => (⟨chomping, some indent⟩, text)
          | none => ({ chomping := chomping }, second :: text)
      | none, some indent =>
          match readChomping? second with
          | some chomping => (⟨chomping, some indent⟩, text)
          | none => ({ indent := some indent }, second :: text)
      | none, none => ({}, first :: second :: text)
  | [first] =>
      match readChomping? first, readIndent? first with
      | some chomping, _ => ({ chomping := chomping }, [])
      | none, some indent => ({ indent := some indent }, [])
      | none, none => ({}, [first])
  | [] => ({}, [])

def passLine? (text : Text) : Option Text :=
  let text := text.dropWhile isSpace
  let text := if text.head? = some '#' then text.dropWhile (! isBreak ·) else text
  if startsBreak text then some (text.drop 1) else none

/-- The empty lines before a line of a block scalar: their ends, the column where the line starts,
and the largest column seen. -/
structure EmptyLines where
  breaks : Text
  column : Nat
  deepest : Nat
  rest : Text

def passEmptyLines? (indent : Option Nat) (column deepest : Nat) (breaks : Text) :
    Text → Option EmptyLines
  | [] => some ⟨breaks.reverse, column, max deepest column, []⟩
  | character :: text =>
      let indented := indent.any (· ≤ column)
      if character = ' ' ∧ ¬ indented then passEmptyLines? indent (column + 1) deepest breaks text
      else if character = '\t' ∧ ¬ indented then none
      else if isBreak character then
        passEmptyLines? indent 0 (max deepest column) (character :: breaks) text
      else some ⟨breaks.reverse, column, max deepest column, character :: text⟩

/-- The line ends of a block scalar between two of its lines. A folded scalar joins two lines that
both start with a word. -/
def joinLines (folded wasBlank isBlank : Bool) (lineEnd breaks : Text) : Text :=
  if folded && lineEnd.head? == some '\n' && !wasBlank && !isBlank then
    if breaks.isEmpty then [' '] else breaks
  else lineEnd ++ breaks

def Chomping.tail (lineEnd breaks : Text) : Chomping → Text
  | .strip => []
  | .clip => lineEnd
  | .keep => lineEnd ++ breaks

/-- Reads the lines of a block scalar from where a line may start. The content is collected in
order; `lineEnd` ended the line before and `wasBlank` tells that it started with a blank. The fuel
bounds the number of lines. -/
def readBlockLines? (folded : Bool) (chomping : Chomping) (indent : Nat) :
    (fuel : Nat) → (content lineEnd : Text) → (wasBlank : Bool) → EmptyLines → Option (Text × Text)
  | 0, _, _, _, _ => none
  | fuel + 1, content, lineEnd, wasBlank, lines =>
      match lines.rest with
      | [] => some (content ++ chomping.tail lineEnd lines.breaks, [])
      | character :: text =>
          if lines.column = indent then
            let line := (character :: text).takeWhile (! isBreak ·)
            let rest := (character :: text).dropWhile (! isBreak ·)
            let isBlank := isSpace character
            let content :=
              content ++ joinLines folded wasBlank isBlank lineEnd lines.breaks ++ line
            (passEmptyLines? (some indent) 0 0 [] (rest.drop 1)).bind
              (readBlockLines? folded chomping indent fuel content (rest.take 1) isBlank)
          else some (content ++ chomping.tail lineEnd lines.breaks, lines.rest)

/-- Reads a block scalar after its indicator, where `parent` is the least indentation of its
lines. Without a given indentation the first line that is not empty decides. -/
def readBlock? (folded : Bool) (parent : Nat) (text : Text) : Option (Text × Text) := do
  let (header, text) := readHeader text
  let text ← passLine? text
  let given := header.indent.map (parent - 1 + ·)
  let lines ← passEmptyLines? given 0 0 [] text
  let indent := given.getD (max (max lines.deepest parent) 1)
  readBlockLines? folded header.chomping indent (text.length + 1) [] [] false lines

end Compositor.Yaml
