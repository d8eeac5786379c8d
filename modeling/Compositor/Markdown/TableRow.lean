import Compositor.Markdown.Character

/-! Rows of tables: cells between vertical bars. -/

namespace Compositor.Markdown

def isCellSpace (character : Char) : Bool :=
  isSpaceOrTab character || character == '\x0b' || character == '\x0c'

def splitCells : (escaped : Bool) → (line : Text) → List Text
  | _, [] => [[]]
  | escaped, character :: line =>
      if character = '|' ∧ !escaped then [] :: splitCells false line
      else match splitCells (character = '\\') line with
        | [] => [[character]]
        | piece :: pieces => (character :: piece) :: pieces

def unescapeBars : Text → Text
  | '\\' :: '|' :: text => '|' :: unescapeBars text
  | character :: text => character :: unescapeBars text
  | [] => []

def dropBar : Text → Text
  | '|' :: line => line
  | line => line

/-- The pieces of a line that are cells: white space after the last bar is none. -/
def cellPieces (line : Text) : List Text :=
  let pieces := splitCells false (dropBar line)
  if (pieces.getLast?.getD []).all isCellSpace then pieces.dropLast else pieces

def rowCells (line : Text) : List Text :=
  (cellPieces line).map fun piece => trimSpace (unescapeBars piece)

def isRow (line : Text) : Bool := !(cellPieces line).isEmpty

def readColumnMark? (text : Text) : Option Text :=
  let afterColon := match text.dropWhile isCellSpace with
    | ':' :: rest => rest
    | rest => rest
  match afterColon with
  | '-' :: rest =>
      let afterDashes := rest.dropWhile (· == '-')
      some ((match afterDashes with
        | ':' :: rest => rest
        | rest => rest).dropWhile isCellSpace)
  | _ => none

def holdsColumnMarks : (fuel : Nat) → Text → Bool
  | 0, _ => false
  | fuel + 1, text =>
      match readColumnMark? text with
      | none => false
      | some [] => true
      | some ('|' :: rest) =>
          (rest.dropWhile isCellSpace).isEmpty || holdsColumnMarks fuel rest
      | some _ => false

def isDelimiterLine (line : Text) : Bool :=
  holdsColumnMarks (line.length + 1) (dropBar line)

end Compositor.Markdown
