import Compositor.Shell.Script
import Compositor.Shell.Utility

/-! Running scripts on a system. -/

namespace Compositor.Shell

variable {m : Type → Type} [Monad m]

inductive Sink where
  | output
  | errors
  | file (path : Path)
  | nowhere

structure Channels where
  input : Bytes
  output : Sink := .output
  errors : Sink := .errors

def creationError : FileError → Text
  | .notFound | .notDirectory => "Directory nonexistent"
  | error => error.cause.1

def openingError : FileError → Text
  | .notFound | .notDirectory => "No such file"
  | error => error.cause.1

def complainAt (line : Nat) (message : Text) : Run m Unit := do
  complain ((← get).name ++ ": " ++ Text.ofNat line ++ ": " ++ message ++ ['\n'])

def Channels.set (channels : Channels) (descriptor : Nat) (sink : Sink) : Channels :=
  match descriptor with
  | 1 => { channels with output := sink }
  | 2 => { channels with errors := sink }
  | _ => channels

def Channels.sinkOf (channels : Channels) (descriptor : Text) : Sink :=
  if descriptor = ['1'] then channels.output
  else if descriptor = ['2'] then channels.errors
  else .nowhere

def openTarget (system : System m) (line : Nat) (channels : Channels) (redirect : Redirect)
    (target : Text) : Run m (Option Channels) := do
  let sink : Sink := if target = "/dev/null".toList then .nowhere else .file target
  let opened (result : Except FileError Unit) : Run m (Option Channels) := do
    match sink, result with
    | .file _, .error error =>
        complainAt line ("cannot create " ++ target ++ ": " ++ creationError error)
        return none
    | _, _ => return some (channels.set redirect.descriptor sink)
  match redirect.direction with
  | .write => opened (← (system.write target [] : m _))
  | .append => opened (← (system.append target [] : m _))
  | .duplicate => return some (channels.set redirect.descriptor (channels.sinkOf target))
  | .read =>
      match ← (system.read target : m _) with
      | .ok bytes => return some { channels with input := bytes }
      | .error error =>
          complainAt line ("cannot open " ++ target ++ ": " ++ openingError error)
          return none

def deliver (system : System m) (bytes : Bytes) : Sink → Run m Unit
  | .output => modify fun state => { state with output := state.output ++ bytes }
  | .errors => modify fun state => { state with errors := state.errors ++ bytes }
  | .file path => do let _ ← (system.append path bytes : m _)
  | .nowhere => return ()

def Sink.file? (outer : Option Path) : Sink → Option Path
  | .file path => some path
  | .output => outer
  | .errors | .nowhere => none

def runWith (system : System m) (channels : Channels) (command : Run m Flow) : Run m Flow := do
  let outer ← get
  set { outer with
    input := channels.input, output := [], errors := []
    outputFile := channels.output.file? outer.outputFile }
  let flow ← command
  let inner ← get
  set { inner with
    input := outer.input, output := outer.output, errors := outer.errors
    outputFile := outer.outputFile }
  deliver system inner.output channels.output
  deliver system inner.errors channels.errors
  return flow

def findsPrograms (system : System m) : Run m Bool := do
  let directories := Text.split (· == ':') (← lookUp system "PATH")
  return directories.any fun directory => directory = "/usr/bin".toList || directory = "/bin".toList

def runNamed (system : System m) (line : Nat) (name : Text) (arguments : List Text) :
    Run m Flow := do
  match ← builtin? system name arguments with
  | some flow => return flow
  | none =>
      if ← findsPrograms system then
        if let some _ := ← program? system name arguments then return .next
      complainAt line (name ++ ": not found")
      setStatus 127
      return .next

mutual
def expandPart (system : System m) (fields : Fields) (part : Part) : (fuel : Nat) → Run m Fields
  | 0 => return fields
  | fuel + 1 => do
      match part with
      | .text _ value => return fields.add value
      | .value true ['@'] => return fields.addEach (← get).arguments
      | .value quoted name =>
          let value ← lookUp system name
          return if quoted then fields.add value else fields.addCut value
      | .output quoted script =>
          let value := trimLineEnds (← capture system script fuel)
          return if quoted then fields.add value else fields.addCut value

def capture (system : System m) (script : Text) : (fuel : Nat) → Run m Text
  | 0 => return []
  | fuel + 1 => do
      match script? script with
      | some command =>
          let outer ← get
          set { outer with output := [], outputFile := none }
          let _ ← run system command fuel
          let inner ← get
          set { outer with status := inner.status, errors := inner.errors }
          return Text.ofBytesLossy inner.output
      | none => return []

def expandParts (system : System m) (fields : Fields) (parts : List Part) :
    (fuel : Nat) → Run m Fields
  | 0 => return fields
  | fuel + 1 => do
      match parts with
      | [] => return fields
      | part :: parts => expandParts system (← expandPart system fields part fuel) parts fuel

def expandWords (system : System m) (words : List Word) : (fuel : Nat) → Run m (List Text)
  | 0 => return []
  | fuel + 1 => do
      match words with
      | [] => return []
      | word :: words =>
          let fields ← expandParts system {} word fuel
          return fields.toList ++ (← expandWords system words fuel)

def expandText (system : System m) (word : Word) : (fuel : Nat) → Run m Text
  | 0 => return []
  | fuel + 1 => do
      let quoted := word.map fun part => match part with
        | .text _ value => Part.text true value
        | .value _ name => Part.value true (if name = ['@'] then ['*'] else name)
        | .output _ script => Part.output true script
      return (← expandParts system {} quoted fuel).toList.flatten

/-- The pattern that a word spells: only its unquoted letters and values are wildcards. -/
def expandPattern (system : System m) (word : Word) : (fuel : Nat) → Run m (List Wildcard)
  | 0 => return []
  | fuel + 1 => do
      match word with
      | [] => return []
      | part :: parts =>
          let quoted := match part with
            | .text quoted _ | .value quoted _ | .output quoted _ => quoted
          let text ← expandText system [part] fuel
          let front := text.map fun character =>
            if quoted then Wildcard.literal character else Wildcard.ofUnquoted character
          return front ++ (← expandPattern system parts fuel)

def matchesAny (system : System m) (subject : Text) (patterns : List Word) :
    (fuel : Nat) → Run m Bool
  | 0 => return false
  | fuel + 1 => do
      match patterns with
      | [] => return false
      | pattern :: patterns =>
          if isMatch (← expandPattern system pattern fuel) subject then return true
          else matchesAny system subject patterns fuel

def runCases (system : System m) (subject : Text) (cases : List (List Word × Command)) :
    (fuel : Nat) → Run m Flow
  | 0 => return .signal 9
  | fuel + 1 => do
      match cases with
      | [] =>
          setStatus 0
          return .next
      | (patterns, body) :: cases =>
          if ← matchesAny system subject patterns fuel then run system body fuel
          else runCases system subject cases fuel

def openAll (system : System m) (line : Nat) (channels : Channels) (redirects : List Redirect) :
    (fuel : Nat) → Run m (Option Channels)
  | 0 => return none
  | fuel + 1 => do
      match redirects with
      | [] => return some channels
      | redirect :: redirects =>
          let target ← expandText system redirect.target fuel
          match ← openTarget system line channels redirect target with
          | some channels => openAll system line channels redirects fuel
          | none => return none

def assignAll (system : System m) (assignments : List (Text × Word)) : (fuel : Nat) → Run m Unit
  | 0 => return ()
  | fuel + 1 => do
      match assignments with
      | [] => return ()
      | (name, word) :: assignments =>
          assign name (← expandText system word fuel)
          assignAll system assignments fuel

def runRedirected (system : System m) (line : Nat) (redirects : List Redirect)
    (command : Run m Flow) : (fuel : Nat) → Run m Flow
  | 0 => return .signal 9
  | fuel + 1 => do
      if redirects.isEmpty then command
      else
        match ← openAll system line { input := (← get).input } redirects fuel with
        | some channels => runWith system channels command
        | none =>
            setStatus 2
            return .next

def iterate (system : System m) (name : Text) (values : List Text) (body : Command) :
    (fuel : Nat) → Run m Flow
  | 0 => return .signal 9
  | fuel + 1 => do
      match values with
      | [] => return .next
      | value :: values =>
          assign name value
          match ← run system body fuel with
          | .next => iterate system name values body fuel
          | flow => return flow

/-- Runs a command. A script that takes more steps than the fuel is stopped. -/
def run (system : System m) (command : Command) : (fuel : Nat) → Run m Flow
  | 0 => return .signal 9
  | fuel + 1 => do
      match command with
      | .simple line assignments words redirects =>
          let fields ← expandWords system words fuel
          match fields with
          | [] =>
              setStatus 0
              assignAll system assignments fuel
              runRedirected system line redirects (return .next) fuel
          | name :: arguments =>
              assignAll system assignments fuel
              runRedirected system line redirects (runNamed system line name arguments) fuel
      | .sequence first second =>
          match ← run system first fuel with
          | .next => run system second fuel
          | flow => return flow
      | .andThen first second =>
          match ← run system first fuel with
          | .next => if (← get).status = 0 then run system second fuel else return .next
          | flow => return flow
      | .orElse first second =>
          match ← run system first fuel with
          | .next => if (← get).status = 0 then return .next else run system second fuel
          | flow => return flow
      | .negation command =>
          match ← run system command fuel with
          | .next =>
              setStatus (if (← get).status = 0 then 1 else 0)
              return .next
          | flow => return flow
      | .pipe first second =>
          let outer ← get
          set { outer with output := [], outputFile := none }
          let _ ← run system first fuel
          let inner ← get
          set { outer with input := inner.output, errors := inner.errors }
          let _ ← run system second fuel
          modify fun state => { state with input := outer.input }
          return .next
      | .branch test yes no =>
          match ← run system test fuel with
          | .next => run system (if (← get).status = 0 then yes else no) fuel
          | flow => return flow
      | .loop wanted test body =>
          match ← run system test fuel with
          | .next =>
              if ((← get).status == 0) == wanted then
                match ← run system body fuel with
                | .next => run system (.loop wanted test body) fuel
                | flow => return flow
              else
                setStatus 0
                return .next
          | flow => return flow
      | .iterate name words body =>
          iterate system name (← expandWords system words fuel) body fuel
      | .select word cases =>
          runCases system (← expandText system word fuel) cases fuel
      | .redirected line command redirects =>
          runRedirected system line redirects (run system command fuel) fuel
end

def maxSteps : Nat := 100000

def shells : List Text := ["/bin/sh", "/usr/bin/sh", "/bin/dash", "/bin/bash"].map String.toList

/-- What a program file does when it is run: a script for a shell is interpreted, and no other
programs are known. -/
def execute (system : System m) (content : Bytes) (launch : Launch) :
    m (Except FileError Ending) := do
  let text := Text.ofBytesLossy content
  match Text.stripStart? "#!" text with
  | none => return .error .badFormat
  | some rest =>
      let interpreter := Text.trim (rest.takeWhile (· != '\n'))
      if !shells.contains interpreter then return .error .notFound
      else
        match script? text with
        | none =>
            return .ok ⟨.exited 2, (launch.program ++ ": Syntax error\n" : Text).toBytes⟩
        | some command =>
            let (flow, state) ← (run system command maxSteps).run
              { name := launch.program, arguments := launch.arguments, bindings := launch.bindings }
            let status := match flow with
              | .signal number => .signalled number
              | .next | .exit => .exited state.status
            return .ok ⟨status, state.errors⟩

end Compositor.Shell
