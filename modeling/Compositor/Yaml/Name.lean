import Compositor.Yaml.ScalarText

/-! Names in YAML: anchors, aliases, tags, and the directives before a document. -/

namespace Compositor.Yaml

def readAnchor? (text : Text) : Option (Text × Text) :=
  let name := text.takeWhile isWord
  let rest := text.dropWhile isWord
  let ends := startsGap rest || rest.head?.any (· ∈ ['?', ':', ',', ']', '}', '%', '@', '\x60'])
  if name.isEmpty || !ends then none else some (name, rest)

/-- The characters of tags that stand for themselves. Those of a tag in angle brackets also
include three indicators. -/
def isTagCharacter (bracketed : Bool) (character : Char) : Bool :=
  isWord character ||
    character ∈ [';', '/', '?', ':', '@', '&', '=', '+', '$', '.', '!', '~', '*', '\'', '(', ')'] ||
    (bracketed && character ∈ [',', '[', ']'])

def readEscapes : Text → List UInt8 × Text
  | '%' :: high :: low :: text =>
      match Text.numberInBase? 16 [high, low] with
      | some code =>
          let (bytes, rest) := readEscapes text
          (UInt8.ofNat code :: bytes, rest)
      | none => ([], '%' :: high :: low :: text)
  | text => ([], text)

def decodeBytes? (bytes : List UInt8) : Option Text :=
  (String.fromUTF8? ⟨bytes.toArray⟩).map String.toList

def readTagPieces? (bracketed : Bool) : (fuel : Nat) → Text → Option (Text × Text)
  | 0, _ => none
  | fuel + 1, text =>
      let plain := text.takeWhile (isTagCharacter bracketed)
      let rest := text.dropWhile (isTagCharacter bracketed)
      if rest.head? = some '%' then
        match readEscapes rest with
        | ([], _) => none
        | (bytes, rest) => do
            let decoded ← decodeBytes? bytes
            let (more, rest) ← readTagPieces? bracketed fuel rest
            some (plain ++ decoded ++ more, rest)
      else some (plain, rest)

def readTagText? (bracketed : Bool) (text : Text) : Option (Text × Text) :=
  readTagPieces? bracketed (text.length + 1) text

def readHandle? : Text → Option (Text × Text)
  | '!' :: text =>
      let name := '!' :: text.takeWhile isWord
      match text.dropWhile isWord with
      | '!' :: rest => some (name ++ ['!'], rest)
      | rest => some (name, rest)
  | _ => none

def isNamedHandle (handle : Text) : Bool := 1 < handle.length && handle.getLast? == some '!'

/-- The handle and suffix of a tag, from its `!` on, and the rest. A tag in angle brackets has no
handle, and neither has the tag `!`. -/
def readTag? (text : Text) : Option (Text × Text × Text) := do
  match text with
  | '!' :: '<' :: text =>
      let (suffix, rest) ← readTagText? true text
      if suffix.isEmpty || rest.head? ≠ some '>' then none else some ([], suffix, rest.drop 1)
  | text =>
      let (handle, rest) ← readHandle? text
      let (suffix, rest) ← readTagText? false rest
      if isNamedHandle handle then
        if suffix.isEmpty then none else some (handle, suffix, rest)
      else if handle.length = 1 && suffix.isEmpty then some ([], ['!'], rest)
      else some (['!'], handle.drop 1 ++ suffix, rest)

def readVersionNumber? (text : Text) : Option (Nat × Text) :=
  let digits := text.takeWhile Char.isDigit
  if digits.isEmpty || 9 < digits.length then none
  else some (Text.digitsValue 0 digits, text.dropWhile Char.isDigit)

def readVersion? (text : Text) : Option (Token × Text) := do
  let (major, rest) ← readVersionNumber? text
  if rest.head? ≠ some '.' then none
  else
    let (minor, rest) ← readVersionNumber? (rest.drop 1)
    some (.version major minor, rest)

def readTagDirective? (text : Text) : Option (Token × Text) := do
  let (handle, rest) ← readHandle? text
  if (handle.length = 1 || isNamedHandle handle) && rest.head?.any isSpace then
    let (replacement, rest) ← readTagText? true (rest.dropWhile isSpace)
    if replacement.isEmpty || !startsGap rest then none
    else some (.tagDirective handle replacement, rest)
  else none

def readDirective? (text : Text) : Option (Token × Text) := do
  let name := text.takeWhile isWord
  let rest := (text.dropWhile isWord).dropWhile isSpace
  if !startsGap (text.dropWhile isWord) then none
  else
    let (token, rest) ←
      if name = "YAML".toList then readVersion? rest
      else if name = "TAG".toList then readTagDirective? rest
      else none
    (passLine? rest).map fun rest => (token, rest)

end Compositor.Yaml
