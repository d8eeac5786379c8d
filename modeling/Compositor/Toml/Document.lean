import Compositor.Toml.Number

/-! A TOML text as a table. -/

namespace Compositor.Toml

def passBlanks (text : Text) : Text := text.dropWhile isBlank

def passComment? : Text → Option Text
  | '#' :: text =>
      let rest := text.dropWhile isPrintable
      if rest.isEmpty || (passLineEnd? rest).isSome then some rest else none
  | text => some text

def passLines? : (fuel : Nat) → Text → Option Text
  | 0, _ => none
  | fuel + 1, text => do
      let rest ← passComment? (passBlanks text)
      match passLineEnd? rest with
      | some rest => passLines? fuel rest
      | none => some rest

def isBareKey (character : Char) : Bool :=
  character.isAlphanum || character == '_' || character == '-'

def readKeyPart? : Text → Option (Text × Text)
  | [] => none
  | character :: text =>
      if character = '"' ∨ character = '\'' then readSimple? character 0 text
      else
        let part := (character :: text).takeWhile isBareKey
        if part.isEmpty then none else some (part, (character :: text).dropWhile isBareKey)

def readKey? : (most : Nat) → Text → Option (List Text × Text)
  | 0, _ => none
  | most + 1, text => do
      let (part, rest) ← readKeyPart? (passBlanks text)
      match passBlanks rest with
      | '.' :: rest => (readKey? most rest).map fun (parts, rest) => (part :: parts, rest)
      | rest => some ([part], rest)

/-- Arrays, tables in braces and the parts of a key are nested less deep than this. -/
def maxDepth : Nat := 80

def keyOf? (text : Text) : Option (List Text × Text) := readKey? (maxDepth - 1) text

def splitKey (parts : List Text) : List Text × Text := (parts.dropLast, parts.getLast?.getD [])

mutual
def readValue? : (depth fuel : Nat) → Text → Option (Value × Text)
  | _, 0, _ => none
  | _, _, [] => none
  | depth, fuel + 1, character :: text =>
      if character = '"' ∨ character = '\'' then
        (readString? character text).map fun (content, rest) => (.string content, rest)
      else if character = '[' then
        match depth with
        | 0 => none
        | depth + 1 => do
            let (items, rest) ← readItems? depth fuel text
            some (.array items, rest)
      else if character = '{' then
        match depth with
        | 0 => none
        | depth + 1 => do
            let (table, rest) ← readEntries? depth fuel true (.table .explicit []) (passBlanks text)
            some (table.toValue, rest)
      else readWord? (character :: text)

def readItems? : (depth fuel : Nat) → Text → Option (List Value × Text)
  | _, 0, _ => none
  | depth, fuel + 1, text => do
      let text ← passLines? (text.length + 1) text
      if text.head? = some ']' then some ([], text.drop 1)
      else
        let (item, rest) ← readValue? depth fuel text
        let rest ← passLines? (rest.length + 1) rest
        match rest with
        | ',' :: rest => do
            let (items, rest) ← readItems? depth fuel rest
            some (item :: items, rest)
        | ']' :: rest => some ([item], rest)
        | _ => none

def readEntries? : (depth fuel : Nat) → (first : Bool) → Item → Text → Option (Item × Text)
  | _, 0, _, _, _ => none
  | depth, fuel + 1, first, table, text => do
      if first && text.head? == some '}' then some (table, text.drop 1)
      else
        let ((path, key), value, rest) ← readEntry? depth fuel text
        let table ← Item.addValue path key (.value value) table
        match passBlanks rest with
        | ',' :: rest => readEntries? depth fuel false table rest
        | '}' :: rest => some (table, rest)
        | _ => none

def readEntry? : (depth fuel : Nat) → Text → Option ((List Text × Text) × Value × Text)
  | _, 0, _ => none
  | depth, fuel + 1, text => do
      let (parts, rest) ← keyOf? text
      match rest with
      | '=' :: rest => do
          let (value, rest) ← readValue? depth fuel (passBlanks rest)
          some (splitKey parts, value, rest)
      | _ => none
end

structure Progress where
  root : Item := .table .explicit []
  header : List Text := []

def readHeader? (progress : Progress) (text : Text) : Option (Progress × Text) := do
  let isArray := text.head? == some '['
  let (parts, rest) ← keyOf? (if isArray then text.drop 1 else text)
  let rest ← Text.stripStart? (if isArray then [']', ']'] else [']']) rest
  let (path, key) := splitKey parts
  let root ← (if isArray then Item.openElement else Item.openTable) path key progress.root
  some (⟨root, parts⟩, rest)

def readLine? (progress : Progress) (text : Text) : Option (Progress × Text) := do
  let ((path, key), value, rest) ← readEntry? (maxDepth - 1) (2 * text.length + 2) text
  let root ← Item.changeAt false (Item.addValue path key (.value value)) progress.header
    progress.root
  some ({ progress with root := root }, rest)

def readLines? : (fuel : Nat) → Progress → Text → Option Item
  | 0, _, _ => none
  | fuel + 1, progress, text => do
      match ← passLines? (text.length + 1) text with
      | [] => some progress.root
      | character :: rest => do
          let (progress, rest) ←
            if character = '[' then readHeader? progress rest
            else readLine? progress (character :: rest)
          let rest ← passComment? (passBlanks rest)
          if rest.isEmpty || (passLineEnd? rest).isSome then readLines? fuel progress rest else none

def read? (text : Text) : Option Value :=
  (readLines? (text.length + 1) {} text).map Item.toValue

end Compositor.Toml
