import Compositor.Text.Basic

/-! Strings of TOML in their four ways of writing. -/

namespace Compositor.Toml

def isBlank (character : Char) : Bool := character == ' ' || character == '\t'

def isPrintable (character : Char) : Bool :=
  character == '\t' || (' ' ≤ character && character != '\x7f')

def passLineEnd? : Text → Option Text
  | '\n' :: rest => some rest
  | '\r' :: '\n' :: rest => some rest
  | _ => none

def escaped? : Char → Option Char
  | 'b' => some '\x08'
  | 't' => some '\t'
  | 'n' => some '\n'
  | 'f' => some '\x0c'
  | 'r' => some '\r'
  | '"' => some '"'
  | '\\' => some '\\'
  | _ => none

def escapeDigits : Char → Nat
  | 'u' => 4
  | 'U' => 8
  | _ => 0

def readEscape? : Text → Option (Char × Nat)
  | [] => none
  | letter :: text =>
      let count := escapeDigits letter
      if count = 0 then (escaped? letter).map fun meant => (meant, 1)
      else
        let digits := text.take count
        if digits.length = count then
          ((Text.numberInBase? 16 digits).filter Nat.isValidChar).map fun code =>
            (Char.ofNat code, count + 1)
        else none

def passGaps : Text → Text
  | '\r' :: '\n' :: rest => passGaps rest
  | character :: rest =>
      if isBlank character || character == '\n' then passGaps rest else character :: rest
  | [] => []

def continuesLine (text : Text) : Bool := (passLineEnd? (text.dropWhile isBlank)).isSome

/-- Reads a string between single marks after the first one. Only between double quotes are there
escapes. -/
def readSimple? (mark : Char) : (skip : Nat) → Text → Option (Text × Text)
  | _, [] => none
  | skip + 1, _ :: text => readSimple? mark skip text
  | 0, character :: text =>
      if character = mark then some ([], text)
      else if character = '\\' ∧ mark = '"' then
        match readEscape? text with
        | some (meant, count) =>
            (readSimple? mark count text).map fun (content, rest) => (meant :: content, rest)
        | none => none
      else if isPrintable character then
        (readSimple? mark 0 text).map fun (content, rest) => (character :: content, rest)
      else none

/-- The length of the run of marks that ends a string of many lines, of which all but the last
three belong to it; none for a shorter run. -/
def closingLength? (mark : Char) (text : Text) : Option Nat :=
  let length := (text.takeWhile (· == mark)).length
  if length < 3 then none else some (min length 5)

/-- Reads a string of many lines between threefold marks. All line ends are read as line feeds. -/
def readLong? (mark : Char) : (skip : Nat) → Text → Option (Text × Text)
  | _, [] => none
  | skip + 1, _ :: text => readLong? mark skip text
  | 0, character :: text =>
      let goOn (meant : Char) (skip : Nat) : Option (Text × Text) :=
        (readLong? mark skip text).map fun (content, rest) => (meant :: content, rest)
      match closingLength? mark (character :: text) with
      | some length =>
          some (List.replicate (length - 3) mark, (character :: text).drop length)
      | none =>
          if character = '\\' ∧ mark = '"' then
            if continuesLine text then
              readLong? mark (text.length - (passGaps text).length) text
            else
              match readEscape? text with
              | some (meant, count) => goOn meant count
              | none => none
          else if character = '\n' ∨ isPrintable character then goOn character 0
          else if character = '\r' ∧ text.head? = some '\n' then goOn '\n' 1
          else none

def readString? (mark : Char) (text : Text) : Option (Text × Text) :=
  match Text.stripStart? [mark, mark] text with
  | some rest => readLong? mark 0 ((passLineEnd? rest).getD rest)
  | none => readSimple? mark 0 text

end Compositor.Toml
