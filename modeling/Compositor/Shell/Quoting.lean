import Compositor.Shell.Format

/-! How commands write the names of files in messages: a shell reads each one back as the name. -/

namespace Compositor.Shell

def isShellSpecial (character : Char) : Bool :=
  character ∈ " !\"$&'()*:;<=>?[\\^\x60|".toList

def isPrintableAscii (character : Char) : Bool := ' ' ≤ character && character ≤ '~'

def isPlainName (name : Text) : Bool :=
  name != [] && name != ['{'] && name != ['}'] &&
    name.head? != some '#' && name.head? != some '~' &&
    name.all fun character => isPrintableAscii character && !isShellSpecial character

def isPlainInDoubleQuotes (name : Text) : Bool :=
  name.all fun character => character.isAlphanum || character ∈ " '%+,-./:]_".toList

def escapeByte (byte : UInt8) : Text :=
  match "abtnvfr".toList[byte.toNat - 7]? with
  | some letter =>
      if 7 ≤ byte then ['\\', letter] else octal
  | none => octal
where
  octal : Text :=
    '\\' :: [byte / 64, byte / 8 % 8, byte % 8].map fun digit => Char.ofNat (48 + digit.toNat)

/-- A name between single quotes, the first of which has been written. What cannot be printed stands
in quotes that know escapes. -/
def quotedRest (escaping : Bool) : Text → Text
  | [] => ['\'']
  | character :: name =>
      if isPrintableAscii character then
        let shown := if character = '\'' then "'\\''".toList else [character]
        (if escaping then "''".toList else []) ++ shown ++ quotedRest false name
      else
        (if escaping then [] else "'$'".toList) ++
          (String.utf8EncodeChar character).flatMap escapeByte ++ quotedRest true name

def quote (name : Text) : Text :=
  if name.any (· == '\'') && isPlainInDoubleQuotes name then ['"'] ++ name ++ ['"']
  else '\'' :: quotedRest false name

def quoteIfNeeded (name : Text) : Text := if isPlainName name then name else quote name

end Compositor.Shell
