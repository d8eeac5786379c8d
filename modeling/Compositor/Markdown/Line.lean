import Compositor.Markdown.Character

/-! A line being read. Tabs reach to the next column that is a multiple of four, and a tab can be
passed in part. -/

namespace Compositor.Markdown

/-- A place in a line without its end. In the middle of a tab, the tab is still in the rest. -/
structure Cursor where
  column : Nat
  midTab : Bool
  rest : Text

namespace Cursor

def ofLine (line : Text) : Cursor := ⟨0, false, line⟩

def tabWidth (column : Nat) : Nat := 4 - column % 4

def advanceColumn (cursor : Cursor) : Cursor :=
  match cursor.rest with
  | [] => cursor
  | '\t' :: rest =>
      if tabWidth cursor.column = 1 then ⟨cursor.column + 1, false, rest⟩
      else ⟨cursor.column + 1, true, '\t' :: rest⟩
  | _ :: rest => ⟨cursor.column + 1, false, rest⟩

def advanceColumns : (count : Nat) → Cursor → Cursor
  | 0, cursor => cursor
  | count + 1, cursor => advanceColumns count cursor.advanceColumn

def advanceCharacter (cursor : Cursor) : Cursor :=
  match cursor.rest with
  | [] => cursor
  | '\t' :: rest => ⟨cursor.column + tabWidth cursor.column, false, rest⟩
  | _ :: rest => ⟨cursor.column + 1, false, rest⟩

def advanceCharacters : (count : Nat) → Cursor → Cursor
  | 0, cursor => cursor
  | count + 1, cursor => advanceCharacters count cursor.advanceCharacter

def blanks (cursor : Cursor) : Nat := (cursor.rest.takeWhile isSpaceOrTab).length

def toContent (cursor : Cursor) : Cursor := cursor.advanceCharacters cursor.blanks

def indent (cursor : Cursor) : Nat := cursor.toContent.column - cursor.column

def content (cursor : Cursor) : Text := cursor.toContent.rest

def isBlank (cursor : Cursor) : Bool := cursor.content.isEmpty

def atBlank (cursor : Cursor) : Bool :=
  match cursor.rest with
  | character :: _ => isSpaceOrTab character
  | [] => false

def skipBlank (cursor : Cursor) : Cursor :=
  if cursor.atBlank then cursor.advanceColumn else cursor

def skipBlanks : (count : Nat) → Cursor → Cursor
  | 0, cursor => cursor
  | count + 1, cursor => if cursor.atBlank then skipBlanks count cursor.advanceColumn else cursor

/-- The text from here on; what is left of a tab counts as spaces. -/
def text (cursor : Cursor) : Text :=
  match cursor.midTab, cursor.rest with
  | true, _ :: rest => List.replicate (tabWidth cursor.column) ' ' ++ rest
  | _, rest => rest

end Cursor
end Compositor.Markdown
