import Compositor.Shell.Syntax

/-! Scripts as commands. -/

namespace Compositor.Shell

abbrev Parse := StateT (List PlacedToken) Option

def peek? : Parse (Option Token) := do return ((← get).head?).map (·.token)

def currentLine : Parse Nat := do return (((← get).head?).map (·.line)).getD 0

def pass : Parse Unit := modify (·.drop 1)

def plainText? (word : Word) : Option Text :=
  (word.mapM fun part => match part with
    | Part.text false value => some value
    | _ => none).map List.flatten

def reservedWords : List Text :=
  ["if", "then", "elif", "else", "fi", "while", "until", "for", "in", "do", "done", "case", "esac",
    r"{", r"}", "!"].map String.toList

def peekReserved? : Parse (Option Text) := do
  match ← peek? with
  | some (.word word) => return (plainText? word).filter (· ∈ reservedWords)
  | _ => return none

def isReserved (name : Text) : Parse Bool := do return (← peekReserved?) == some name

def expectReserved (name : Text) : Parse Unit := do
  if ← isReserved name then pass else failure

def isOperator (symbol : Text) : Parse Bool := do
  match ← peek? with
  | some (.operator found) => return found == symbol
  | _ => return false

def acceptOperator (symbol : Text) : Parse Bool := do
  if ← isOperator symbol then
    pass
    return true
  else return false

def passNewlines : Parse Unit := do
  modify (·.dropWhile fun placed => match placed.token with
    | .newline => true
    | _ => false)

def passSeparators : Parse Unit := do
  modify (·.dropWhile fun placed => match placed.token with
    | .newline => true
    | .operator symbol => symbol == [';']
    | _ => false)

def readRedirects : (fuel : Nat) → Parse (List Redirect)
  | 0 => failure
  | fuel + 1 => do
      match ← peek? with
      | some (.redirect descriptor direction) =>
          pass
          match ← peek? with
          | some (.word target) =>
              pass
              return ⟨descriptor, direction, target⟩ :: (← readRedirects fuel)
          | _ => failure
      | _ => return []

def assignment? (word : Word) : Option (Text × Word) :=
  let letters := word.takeWhile fun part => match part with
    | Part.text false value => value != ['=']
    | _ => false
  match plainText? letters, word.drop letters.length with
  | some (first :: name), Part.text false ['='] :: value =>
      if isNameStart first && name.all isNameCharacter then some (first :: name, value) else none
  | _, _ => none

structure SimpleParts where
  assignments : List (Text × Word) := []
  words : List Word := []
  redirects : List Redirect := []

def readSimpleParts (started : Bool) : (fuel : Nat) → Parse SimpleParts
  | 0 => failure
  | fuel + 1 => do
      match ← peek? with
      | some (.word word) =>
          pass
          match if started then none else assignment? word with
          | some assignment =>
              let parts ← readSimpleParts false fuel
              return { parts with assignments := assignment :: parts.assignments }
          | none =>
              let parts ← readSimpleParts true fuel
              return { parts with words := word :: parts.words }
      | some (.redirect _ _) =>
          let redirects ← readRedirects (fuel + 1)
          let parts ← readSimpleParts started fuel
          return { parts with redirects := redirects ++ parts.redirects }
      | _ => return {}

def readWords : (fuel : Nat) → Parse (List Word)
  | 0 => failure
  | fuel + 1 => do
      match ← peek? with
      | some (.word word) =>
          pass
          return word :: (← readWords fuel)
      | _ => return []

def readPatterns : (fuel : Nat) → Parse (List Word)
  | 0 => failure
  | fuel + 1 => do
      match ← peek? with
      | some (.word word) =>
          pass
          if ← acceptOperator ['|'] then return word :: (← readPatterns fuel)
          else if ← acceptOperator [')'] then return [word]
          else failure
      | _ => failure

def endsList : Parse Bool := do
  match ← peek? with
  | none => return true
  | some (.operator symbol) => return symbol == [')'] || symbol == [';', ';']
  | some _ =>
      match ← peekReserved? with
      | some word =>
          return word ∈ ["then", "elif", "else", "fi", "do", "done", "esac", r"}"].map
            String.toList
      | none => return false

mutual
def readList : (fuel : Nat) → Parse Command
  | 0 => failure
  | fuel + 1 => do
      passSeparators
      if ← endsList then return .nothing
      let first ← readChain fuel
      match ← peek? with
      | some .newline => readMore first fuel
      | some (.operator [';']) => readMore first fuel
      | _ => return first

def readMore (first : Command) : (fuel : Nat) → Parse Command
  | 0 => failure
  | fuel + 1 => do
      passSeparators
      if ← endsList then return first else return .sequence first (← readList fuel)

def readChain : (fuel : Nat) → Parse Command
  | 0 => failure
  | fuel + 1 => do extendChain (← readPipeline fuel) fuel

def extendChain (first : Command) : (fuel : Nat) → Parse Command
  | 0 => failure
  | fuel + 1 => do
      if ← acceptOperator ['&', '&'] then
        passNewlines
        let next ← readPipeline fuel
        extendChain (.andThen first next) fuel
      else if ← acceptOperator ['|', '|'] then
        passNewlines
        let next ← readPipeline fuel
        extendChain (.orElse first next) fuel
      else return first

def readPipeline : (fuel : Nat) → Parse Command
  | 0 => failure
  | fuel + 1 => do
      if ← isReserved "!" then
        pass
        return .negation (← readPipeline fuel)
      let first ← readCommand fuel
      extendPipeline first fuel

def extendPipeline (first : Command) : (fuel : Nat) → Parse Command
  | 0 => failure
  | fuel + 1 => do
      if ← acceptOperator ['|'] then
        passNewlines
        let next ← readCommand fuel
        extendPipeline (.pipe first next) fuel
      else return first

def readCommand : (fuel : Nat) → Parse Command
  | 0 => failure
  | fuel + 1 => do
      let line ← currentLine
      match ← peekReserved? with
      | none =>
          let parts ← readSimpleParts false fuel
          if parts.assignments.isEmpty && parts.words.isEmpty && parts.redirects.isEmpty then failure
          return .simple line parts.assignments parts.words parts.redirects
      | some word =>
          pass
          let command ← readCompound word fuel
          let redirects ← readRedirects fuel
          return if redirects.isEmpty then command else .redirected line command redirects

def readCompound (word : Text) : (fuel : Nat) → Parse Command
  | 0 => failure
  | fuel + 1 => do
      if word = "if".toList then readBranches fuel
      else if word = "while".toList ∨ word = "until".toList then
        let test ← readList fuel
        expectReserved "do"
        let body ← readList fuel
        expectReserved "done"
        return .loop (word = "while".toList) test body
      else if word = "for".toList then readIteration fuel
      else if word = "case".toList then
        match ← peek? with
        | some (.word subject) =>
            pass
            passNewlines
            expectReserved "in"
            return .select subject (← readCases fuel)
        | _ => failure
      else if word = r"{".toList then
        let body ← readList fuel
        expectReserved r"}"
        return body
      else failure

def readBranches : (fuel : Nat) → Parse Command
  | 0 => failure
  | fuel + 1 => do
      let test ← readList fuel
      expectReserved "then"
      let yes ← readList fuel
      match ← peekReserved? with
      | some word =>
          pass
          if word = "fi".toList then return .branch test yes .nothing
          else if word = "elif".toList then return .branch test yes (← readBranches fuel)
          else if word = "else".toList then
            let no ← readList fuel
            expectReserved "fi"
            return .branch test yes no
          else failure
      | none => failure

def readIteration : (fuel : Nat) → Parse Command
  | 0 => failure
  | fuel + 1 => do
      match ← peek? with
      | some (.word name) =>
          pass
          match plainText? name with
          | some name =>
              passNewlines
              let words ← if ← isReserved "in" then iterationWords fuel
                else pure [[Part.value true ['@']]]
              passSeparators
              expectReserved "do"
              let body ← readList fuel
              expectReserved "done"
              return .iterate name words body
          | none => failure
      | _ => failure

def iterationWords : (fuel : Nat) → Parse (List Word)
  | 0 => failure
  | fuel + 1 => do
      pass
      readWords fuel

def readCases : (fuel : Nat) → Parse (List (List Word × Command))
  | 0 => failure
  | fuel + 1 => do
      passNewlines
      if ← isReserved "esac" then
        pass
        return []
      let _ ← acceptOperator ['(']
      let patterns ← readPatterns (fuel + 1)
      let body ← readList fuel
      let _ ← acceptOperator [';', ';']
      return (patterns, body) :: (← readCases fuel)
end

def script? (script : Text) : Option Command := do
  let tokens ← tokens? script
  match readList (16 * tokens.length + 16) tokens with
  | some (command, []) => some command
  | _ => none

end Compositor.Shell
