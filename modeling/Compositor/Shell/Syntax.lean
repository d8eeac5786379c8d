import Compositor.Text.Basic

/-! The commands of shell scripts, and scripts as tokens. -/

namespace Compositor.Shell

/-- A part of a word. What is quoted is not cut into fields. -/
inductive Part where
  | text (quoted : Bool) (value : Text)
  | value (quoted : Bool) (name : Text)
  | output (quoted : Bool) (script : Text)

abbrev Word := List Part

inductive Direction where
  | read
  | write
  | append
  | duplicate

structure Redirect where
  descriptor : Nat
  direction : Direction
  target : Word

inductive Command where
  | simple (line : Nat) (assignments : List (Text × Word)) (words : List Word)
    (redirects : List Redirect)
  | sequence (first second : Command)
  | andThen (first second : Command)
  | orElse (first second : Command)
  | negation (command : Command)
  | pipe (first second : Command)
  | branch (test yes no : Command)
  | loop (wanted : Bool) (test body : Command)
  | iterate (name : Text) (words : List Word) (body : Command)
  | select (word : Word) (cases : List (List Word × Command))
  | redirected (line : Nat) (command : Command) (redirects : List Redirect)
  deriving Inhabited

def Command.nothing : Command := .simple 0 [] [] []

inductive Token where
  | word (parts : Word)
  | operator (symbol : Text)
  | redirect (descriptor : Nat) (direction : Direction)
  | newline
  deriving Inhabited

structure PlacedToken where
  line : Nat
  token : Token
  deriving Inhabited

def isNameStart (character : Char) : Bool := character.isAlpha || character == '_'

def isNameCharacter (character : Char) : Bool := character.isAlphanum || character == '_'

def isSpecialName (character : Char) : Bool := character ∈ ['@', '*', '#', '?', '$', '!', '-']

def readName? : Text → Option (Text × Text)
  | '{' :: text =>
      match text.dropWhile (· != '}') with
      | _ :: rest => some (text.takeWhile (· != '}'), rest)
      | [] => none
  | character :: text =>
      if isNameStart character then
        some (character :: text.takeWhile isNameCharacter, text.dropWhile isNameCharacter)
      else if character.isDigit || isSpecialName character then some ([character], text)
      else none
  | [] => none

/-- The text up to the parenthesis that closes one already open, and the rest. Parentheses in
quotes do not count. -/
def readParenthesized? (depth : Nat) (quote : Option Char) : Text → Option (Text × Text)
  | [] => none
  | character :: text =>
      let continued (depth : Nat) (quote : Option Char) :=
        (readParenthesized? depth quote text).map fun (inner, rest) => (character :: inner, rest)
      match quote with
      | some mark => continued depth (if character = mark then none else quote)
      | none =>
          if character = '\'' ∨ character = '"' then continued depth (some character)
          else if character = '(' then continued (depth + 1) none
          else if character = ')' then
            if depth = 0 then some ([], text) else continued (depth - 1) none
          else continued depth none

def readValue? (quoted : Bool) : Text → Option (Part × Text)
  | '(' :: text =>
      (readParenthesized? 0 none text).map fun (script, rest) => (.output quoted script, rest)
  | text =>
      match readName? text with
      | some (name, rest) => some (.value quoted name, rest)
      | none => some (.text quoted ['$'], text)

def isEscapable (character : Char) : Bool := character ∈ ['$', '\x60', '"', '\\']

def readQuoted? : (fuel : Nat) → Text → Option (Word × Text)
  | 0, _ => none
  | _, [] => none
  | fuel + 1, character :: text =>
      if character = '"' then some ([], text)
      else do
        let (part, rest) ←
          if character = '$' then readValue? true text
          else if character = '\\' then
            match text with
            | '\n' :: rest => some (.text true [], rest)
            | next :: rest =>
                some (.text true (if isEscapable next then [next] else ['\\', next]), rest)
            | [] => none
          else some (.text true [character], text)
        let (parts, rest) ← readQuoted? fuel rest
        some (part :: parts, rest)

def endsWord (character : Char) : Bool :=
  character ∈ [' ', '\t', '\n', ';', '&', '|', '<', '>', '(', ')']

def readWord? : (fuel : Nat) → Text → Option (Word × Text)
  | 0, _ => none
  | _, [] => some ([], [])
  | fuel + 1, character :: text =>
      if endsWord character then some ([], character :: text)
      else do
        let (front, rest) ←
          if character = '\'' then
            match text.dropWhile (· != '\'') with
            | _ :: rest => some ([Part.text true (text.takeWhile (· != '\''))], rest)
            | [] => none
          else if character = '"' then
            (readQuoted? fuel text).map fun (parts, rest) =>
              (if parts.isEmpty then [Part.text true []] else parts, rest)
          else if character = '\\' then
            match text with
            | '\n' :: rest => some ([], rest)
            | next :: rest => some ([Part.text true [next]], rest)
            | [] => some ([Part.text true ['\\']], [])
          else if character = '$' then
            (readValue? false text).map fun (part, rest) => ([part], rest)
          else some ([Part.text false [character]], text)
        let (parts, rest) ← readWord? fuel rest
        some (front ++ parts, rest)

def readArrow? : Text → Option (Direction × Text)
  | '>' :: '>' :: rest => some (.append, rest)
  | '>' :: '&' :: rest => some (.duplicate, rest)
  | '>' :: '|' :: rest => some (.write, rest)
  | '>' :: rest => some (.write, rest)
  | '<' :: '&' :: rest => some (.duplicate, rest)
  | '<' :: rest => some (.read, rest)
  | _ => none

/-- A redirection with its descriptor, which is one digit or follows from the arrow. -/
def readRedirect? (text : Text) : Option (Token × Text) :=
  let (descriptor, arrow) := match text with
    | digit :: rest =>
        if digit.isDigit then (some (digit.toNat - '0'.toNat), rest) else (none, text)
    | [] => (none, [])
  (readArrow? arrow).map fun (direction, rest) =>
    let standard := if arrow.head? = some '<' then 0 else 1
    (.redirect (descriptor.getD standard) direction, rest)

def readOperator? : Text → Option (Token × Text)
  | '&' :: '&' :: rest => some (.operator ['&', '&'], rest)
  | '|' :: '|' :: rest => some (.operator ['|', '|'], rest)
  | ';' :: ';' :: rest => some (.operator [';', ';'], rest)
  | character :: rest =>
      if character ∈ [';', '&', '|', '(', ')'] then some (.operator [character], rest) else none
  | [] => none

def readToken? (text : Text) : Option (Token × Text) :=
  match readRedirect? text with
  | some found => some found
  | none =>
      match readOperator? text with
      | some found => some found
      | none => (readWord? (text.length + 1) text).map fun (parts, rest) => (.word parts, rest)

def readTokens? : (fuel line : Nat) → Text → Option (List PlacedToken)
  | 0, _, _ => none
  | _, _, [] => some []
  | fuel + 1, line, character :: text =>
      if character = '\n' then (readTokens? fuel (line + 1) text).map (⟨line, .newline⟩ :: ·)
      else if character = ' ' ∨ character = '\t' then readTokens? fuel line text
      else if character = '#' then readTokens? fuel line (text.dropWhile (· != '\n'))
      else do
        let (token, rest) ← readToken? (character :: text)
        let passed := (character :: text).take (text.length + 1 - rest.length)
        let tokens ← readTokens? fuel (line + passed.count '\n') rest
        some (⟨line, token⟩ :: tokens)

def tokens? (script : Text) : Option (List PlacedToken) :=
  readTokens? (script.length + 1) 1 script

end Compositor.Shell
