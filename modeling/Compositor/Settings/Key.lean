import Compositor.Text.Basic

/-! Keys of settings: a name, and steps into tables and lists. -/

namespace Compositor.Settings

inductive Step where
  | child (name : Text)
  /-- A place of a list, counted from its end if it is negative. -/
  | place (index : Int)
  deriving DecidableEq

structure Key where
  first : Text
  steps : List Step := []
  deriving DecidableEq

inductive KeyError where
  | name
  | digit
  | bracket
  | number
  deriving DecidableEq

def KeyError.message : KeyError → Text
  | .name => "IsA"
  | .digit => "Digit"
  | .bracket => "Char"
  | .number => "Map on Result"

namespace Key

def isNameCharacter (character : Char) : Bool :=
  character.isAlphanum || character == ' ' || character == '_' || character == '-'

def isBlank (character : Char) : Bool := character == ' ' || character == '\t'

def isPlace (index : Int) : Bool := Int64.minValue.toInt ≤ index && index ≤ Int64.maxValue.toInt

def readPlace (text : Text) : Except KeyError (Step × Text) :=
  let text := text.dropWhile isBlank
  let (negative, digits) := match text with
    | '-' :: rest => (true, rest)
    | '+' :: rest => (false, rest)
    | rest => (false, rest)
  let number := digits.takeWhile Char.isDigit
  let rest := (digits.dropWhile Char.isDigit).dropWhile isBlank
  let value : Int := Text.digitsValue 0 number
  let index := if negative then -value else value
  if number.isEmpty then .error .digit
  else if !isPlace index then .error .number
  else if rest.head? = some ']' then .ok (.place index, rest.drop 1)
  else .error .bracket

def readStep : Text → Except KeyError (Step × Text)
  | '.' :: text =>
      let name := text.takeWhile isNameCharacter
      if name.isEmpty then .error .bracket else .ok (.child name, text.dropWhile isNameCharacter)
  | '[' :: text => readPlace text
  | _ => .error .bracket

def readSteps : (fuel : Nat) → Text → Except KeyError (List Step)
  | 0, _ => .error .bracket
  | _, [] => .ok []
  | fuel + 1, text => do
      let (step, rest) ← readStep text
      let steps ← readSteps fuel rest
      .ok (step :: steps)

def ofText (text : Text) : Except KeyError Key := do
  let first := text.takeWhile isNameCharacter
  if first.isEmpty then .error .name
  else
    let steps ← readSteps (text.length + 1) (text.dropWhile isNameCharacter)
    .ok ⟨first, steps⟩

end Key
end Compositor.Settings
