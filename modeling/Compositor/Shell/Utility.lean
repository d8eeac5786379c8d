import Compositor.Shell.Quoting
import Compositor.Shell.State

/-! The commands that scripts can use. -/

namespace Compositor.Shell

variable {m : Type → Type} [Monad m]

def number? (text : Text) : Option Int :=
  let digits := (Text.stripStart? ['-'] text).getD text
  if digits.isEmpty || !digits.all Char.isDigit then none
  else
    let value : Int := Text.digitsValue 0 digits
    some (if text.head? = some '-' then -value else value)

def compare? (left operator right : Text) : Option Bool :=
  let numbers (test : Int → Int → Bool) : Option Bool := do
    return test (← number? left) (← number? right)
  if operator = "=".toList then some (left == right)
  else if operator = "!=".toList then some (left != right)
  else if operator = "-eq".toList then numbers (· == ·)
  else if operator = "-ne".toList then numbers (· != ·)
  else if operator = "-lt".toList then numbers (· < ·)
  else if operator = "-le".toList then numbers (· ≤ ·)
  else if operator = "-gt".toList then numbers (· > ·)
  else if operator = "-ge".toList then numbers (· ≥ ·)
  else none

def check? (system : System m) (operator operand : Text) : m (Option Bool) := do
  if operator = "-n".toList then return some !operand.isEmpty
  else if operator = "-z".toList then return some operand.isEmpty
  else
    let kind ← system.kind? operand
    if operator = "-e".toList then return some kind.isSome
    else if operator = "-d".toList then return some (kind == some .directory)
    else if operator = "-f".toList then
      return some (kind.isSome && kind != some .directory)
    else if operator = "-x".toList then
      return some (kind == some .directory || kind == some (.file true))
    else return none

def test? (system : System m) : (arguments : List Text) → m (Option Bool)
  | [] => return some false
  | [text] => return some !text.isEmpty
  | ['!'] :: arguments => do return (← test? system arguments).map (!·)
  | [operator, operand] => check? system operator operand
  | [left, operator, right] => return compare? left operator right
  | _ => return none

def baseName (path : Text) : Text :=
  let trimmed := Path.trimSlashes path
  if trimmed = ['/'] then trimmed else (trimmed.reverse.takeWhile (· != '/')).reverse

def baseNameWithout (path ending : Text) : Text :=
  let name := baseName path
  match Text.stripEnd? ending name with
  | some [] | none => name
  | some stem => stem

def directoryName (path : Text) : Text :=
  let trimmed := Path.trimSlashes path
  if trimmed.any (· == '/') then
    Path.trimSlashes (trimmed.reverse.dropWhile (· != '/')).reverse
  else "."

def isSameWay (path other : Path) : Bool :=
  (Path.components path).filter (· != .current) == (Path.components other).filter (· != .current)

/-- Writes the contents of files one after the other. A file with a content is not written to its
own end. -/
def concatenate (system : System m) : (paths : List Text) → Run m Unit
  | [] => return ()
  | path :: paths => do
      let fail (reason : Text) : Run m Unit := do
        complain ("cat: " ++ quoteIfNeeded path ++ ": " ++ reason ++ ['\n'])
        setStatus 1
      let state ← get
      match ← (system.read path : m _) with
      | .ok bytes =>
          if state.outputFile.any (isSameWay path) && !(state.output ++ bytes).isEmpty then
            fail "input file is output file"
          else write bytes
      | .error error => fail error.cause.1
      concatenate system paths

def option? (arguments : List Text) : Option Char :=
  arguments.findSome? fun argument => match argument with
    | '-' :: letter :: _ => some letter
    | _ => none

def rejectOption (command : Text) (letter : Char) : Run m Unit := do
  complain (command ++ ": invalid option -- '" ++ [letter] ++ "'\nTry '" ++ command ++
    " --help' for more information.\n")
  setStatus 1

def copyFile (system : System m) (source destination : Text) : Run m Unit := do
  match ← (system.kind? source : m _) with
  | none =>
      complain ("cp: cannot stat " ++ quote source ++ ": No such file or directory\n")
      setStatus 1
  | some .directory =>
      complain ("cp: -r not specified; omitting directory " ++ quote source ++ "\n")
      setStatus 1
  | some (.file _) =>
      let target :=
        if ← (system.isDirectory destination : m _) then Path.join destination (baseName source)
        else destination
      if target = source then
        complain ("cp: " ++ quote source ++ " and " ++ quote target ++ " are the same file\n")
        setStatus 1
      else
        match ← (system.copy source target : m _) with
        | .ok _ => return ()
        | .error error =>
            complain ("cp: cannot create regular file " ++ quote target ++ ": " ++ error.cause.1 ++
              ['\n'])
            setStatus 1

def makeDirectories (system : System m) (above : Bool) : (paths : List Text) → Run m Unit
  | [] => return ()
  | path :: paths => do
      let made ← (if above then system.createDirectories path else system.createDirectory path : m _)
      if let .error error := made then
        complain ("mkdir: cannot create directory " ++ quote path ++ ": " ++ error.cause.1 ++ ['\n'])
        setStatus 1
      makeDirectories system above paths

def touch (system : System m) : (paths : List Text) → Run m Unit
  | [] => return ()
  | path :: paths => do
      if let .error error := ← (system.append path [] : m _) then
        complain ("touch: cannot touch " ++ quote path ++ ": " ++ error.cause.1 ++ ['\n'])
        setStatus 1
      touch system paths

def signalNumber? (text : Text) : Option Nat :=
  match number? text with
  | some number => if 0 ≤ number then some number.toNat else none
  | none => (signalNames.findIdx? (· == "SIG" ++ text)).map (· + 1)

def kill : (arguments : List Text) → Run m Flow
  | ('-' :: signal) :: [target] => do
      match signalNumber? signal with
      | some number => send number target
      | none =>
          setStatus 1
          return .next
  | [target] => send 15 target
  | _ => do
      setStatus 2
      return .next
where
  send (number : Nat) (target : Text) : Run m Flow := do
    if target = ownProcess then
      if number = 0 then return .next else return .signal number
    else
      setStatus 1
      return .next

def exit (arguments : List Text) : Run m Flow := do
  match arguments.head? with
  | none => return .exit
  | some code =>
      setStatus (match number? code with
        | some code => (code % 256).toNat
        | none => 2)
      return .exit

def shift (count : Nat) : Run m Flow := do
  if (← get).arguments.length < count then
    setStatus 2
    return .exit
  else
    modify fun state => { state with arguments := state.arguments.drop count }
    return .next

def builtin? (system : System m) (name : Text) (arguments : List Text) : Run m (Option Flow) := do
  let finish (action : Run m Unit) : Run m (Option Flow) := do
    action
    return some .next
  let outcome (result : Option Bool) : Nat := match result with
    | some true => 0
    | some false => 1
    | none => 2
  if name ≠ "exit".toList then setStatus 0
  if [":".toList, "true".toList].contains name then finish (setStatus 0)
  else if name = "false".toList then finish (setStatus 1)
  else if name = "echo".toList then finish (write (echo arguments))
  else if name = "printf".toList then
    finish (match arguments with
      | format :: arguments => write (printf format arguments)
      | [] => setStatus 2)
  else if name = "test".toList then
    finish (do setStatus (outcome (← (test? system arguments : m _))))
  else if name = "[".toList then
    finish (do
      if arguments.getLast? = some [']'] then
        setStatus (outcome (← (test? system arguments.dropLast : m _)))
      else setStatus 2)
  else if name = "kill".toList then return some (← kill arguments)
  else if name = "exit".toList then return some (← exit arguments)
  else if name = "shift".toList then
    return some (← shift (((arguments.head?.bind number?).map Int.toNat).getD 1))
  else return none

def program? (system : System m) (name : Text) (arguments : List Text) :
    Run m (Option Unit) := do
  let finish (action : Run m Unit) : Run m (Option Unit) := do
    action
    return some ()
  setStatus 0
  if name = "basename".toList then
    finish (match arguments with
      | [path] => say (baseName path ++ ['\n'])
      | [path, ending] => say (baseNameWithout path ending ++ ['\n'])
      | _ => setStatus 1)
  else if name = "dirname".toList then
    finish (match arguments with
      | [path] => say (directoryName path ++ ['\n'])
      | _ => setStatus 1)
  else if name = "cat".toList then
    finish (match option? arguments with
      | some letter => rejectOption name letter
      | none => if arguments.isEmpty then do write (← get).input else concatenate system arguments)
  else if name = "cp".toList then
    finish (match arguments with
      | [source, destination] => copyFile system source destination
      | _ => setStatus 1)
  else if name = "mkdir".toList then
    finish (match arguments with
      | ['-', 'p'] :: paths => makeDirectories system true paths
      | paths => makeDirectories system false paths)
  else if name = "touch".toList then finish (touch system arguments)
  else if name = "sleep".toList then finish (return ())
  else return none

end Compositor.Shell
