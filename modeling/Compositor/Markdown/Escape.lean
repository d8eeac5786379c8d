import Compositor.Markdown.Character
import Compositor.Markdown.EntityTable

/-! Character references and backslash escapes. -/

namespace Compositor.Markdown

/-- Code points that stand for no character become the replacement character. -/
def characterAt (code : Nat) : Char :=
  if code = 0 ∨ (0xD800 ≤ code ∧ code ≤ 0xE000) ∨ 0x110000 ≤ code then '\uFFFD'
  else Char.ofNat code

def readNumeric? (text : Text) : Option (Char × Text) :=
  let (digits, rest, code) := match text with
    | mark :: rest =>
        if mark = 'x' ∨ mark = 'X' then
          let digits := rest.takeWhile isHexDigit
          (digits, rest.dropWhile isHexDigit, hexValue digits)
        else
          let digits := text.takeWhile Char.isDigit
          (digits, text.dropWhile Char.isDigit, Text.digitsValue 0 digits)
    | [] => ([], [], 0)
  match rest with
  | ';' :: rest => if 1 ≤ digits.length ∧ digits.length ≤ 7 then some (characterAt code, rest) else none
  | _ => none

def entityNameLimit : Nat := 31

def readNamed? (text : Text) : Option (Text × Text) :=
  let name := text.takeWhile fun character => character != ';' && character != ' '
  match text.drop name.length with
  | ';' :: rest =>
      if 2 ≤ name.length ∧ name.length ≤ entityNameLimit then
        (namedEntity? name).map fun value => (value, rest)
      else none
  | _ => none

def readEntity? (text : Text) : Option (Text × Text) :=
  match text with
  | '#' :: digits =>
      match readNumeric? digits with
      | some (character, rest) => some ([character], rest)
      | none => none
  | _ => readNamed? text

def unescapeEntitiesFrom : (fuel : Nat) → Text → Text
  | 0, _ => []
  | _, [] => []
  | fuel + 1, '&' :: text =>
      match readEntity? text with
      | some (value, rest) => value ++ unescapeEntitiesFrom fuel rest
      | none => '&' :: unescapeEntitiesFrom fuel text
  | fuel + 1, character :: text => character :: unescapeEntitiesFrom fuel text

def unescapeEntities (text : Text) : Text := unescapeEntitiesFrom text.length text

def unescapeBackslashes : Text → Text
  | '\\' :: character :: text =>
      if Text.isAsciiPunctuation character then character :: unescapeBackslashes text
      else '\\' :: unescapeBackslashes (character :: text)
  | character :: text => character :: unescapeBackslashes text
  | [] => []
  termination_by text => text.length

def cleanUrl (url : Text) : Text := unescapeBackslashes (unescapeEntities (trimSpace url))

end Compositor.Markdown
