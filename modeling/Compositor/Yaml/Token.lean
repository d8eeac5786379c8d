import Compositor.Text.Basic

/-! The tokens of YAML, the classes of its characters, and positions in its texts. -/

namespace Compositor.Yaml

inductive Token where
  | version (major minor : Nat)
  | tagDirective (handle replacement : Text)
  | documentStart
  | documentEnd
  | blockSequenceStart
  | blockMappingStart
  | blockEnd
  | flowSequenceStart
  | flowSequenceEnd
  | flowMappingStart
  | flowMappingEnd
  | blockEntry
  | flowEntry
  | key
  | value
  | alias (name : Text)
  | anchor (name : Text)
  | tag (handle suffix : Text)
  /-- A scalar; a plain one stands for more than its text. -/
  | scalar (plain : Bool) (text : Text)
  deriving DecidableEq, Inhabited

def isSpace (character : Char) : Bool := character == ' ' || character == '\t'

def isBreak (character : Char) : Bool :=
  character == '\n' || character == '\u2028' || character == '\u2029'

def isGap (character : Char) : Bool := isSpace character || isBreak character

def isWord (character : Char) : Bool :=
  character.isAlphanum || character == '_' || character == '-'

def isByteOrderMark (character : Char) : Bool := character == '\ufeff'

def startsGap : Text → Bool
  | [] => true
  | character :: _ => isGap character

def startsBreak : Text → Bool
  | [] => true
  | character :: _ => isBreak character

def isAllowed (character : Char) : Bool :=
  let code := character.toNat
  code == 9 || code == 10 || code == 13 || (0x20 ≤ code && code ≤ 0x7E) || code == 0x85 ||
    (0xA0 ≤ code && code ≤ 0xD7FF) || (0xE000 ≤ code && code ≤ 0xFFFD) || 0x10000 ≤ code

/-- The text with a line feed for each carriage return, next line, and pair of a carriage return
and a line feed. -/
def normalizeBreaks : Text → Text
  | [] => []
  | '\r' :: '\n' :: text => '\n' :: normalizeBreaks text
  | character :: text =>
      (if character = '\r' ∨ character = '\u0085' then '\n' else character) :: normalizeBreaks text

def marksDocument (mark : Char) : Text → Bool
  | first :: second :: third :: rest =>
      first == mark && second == mark && third == mark && startsGap rest
  | _ => false

/-- A document marker ends every scalar that is open. -/
def startsMarker (text : Text) : Bool := marksDocument '-' text || marksDocument '.' text

structure Cursor where
  rest : Text
  line : Nat
  column : Nat

namespace Cursor

def step (cursor : Cursor) (character : Char) : Cursor :=
  let rest := cursor.rest.drop 1
  if isBreak character then ⟨rest, cursor.line + 1, 0⟩ else ⟨rest, cursor.line, cursor.column + 1⟩

def advance (cursor : Cursor) (count : Nat) : Cursor :=
  (cursor.rest.take count).foldl step cursor

def moveTo (cursor : Cursor) (rest : Text) : Cursor :=
  cursor.advance (cursor.rest.length - rest.length)

end Cursor
end Compositor.Yaml
