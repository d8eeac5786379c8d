import Compositor.Text.Punctuation

/-! The classes of characters that Markdown tells apart. -/

namespace Compositor.Markdown

def isSpace (character : Char) : Bool :=
  character == ' ' || (9 ≤ character.toNat && character.toNat ≤ 13)

def isSpaceOrTab (character : Char) : Bool := character == ' ' || character == '\t'

def isHexDigit (character : Char) : Bool :=
  character.isDigit || ('a' ≤ character && character ≤ 'f') || ('A' ≤ character && character ≤ 'F')

def isControl (character : Char) : Bool := character.toNat < 32 || character.toNat == 127

def trimSpaceStart (text : Text) : Text := text.dropWhile isSpace

def trimSpaceEnd (text : Text) : Text := (text.reverse.dropWhile isSpace).reverse

def trimSpace (text : Text) : Text := trimSpaceEnd (trimSpaceStart text)

def dropSpacesAndTabs (text : Text) : Text := text.dropWhile isSpaceOrTab

end Compositor.Markdown
