import Compositor.Path.Basic

/-! The arguments of the command line. -/

namespace Compositor.CommandLine

structure Options where
  input : Path
  output : Option Path := none
  config : Option Path := none
  assetDirectory : Option Text := none
  noDiagrams : Bool := false
  quiet : Bool := false
  deriving DecidableEq

inductive Request where
  | convert (options : Options)
  | version
  | help
  deriving DecidableEq

inductive UsageError where
  | missingInput
  | unknown (argument : Text)
  | repeated (argument : Text)
  | missingValue (argument : Text)
  | unexpectedValue (argument : Text)
  deriving DecidableEq

def UsageError.message : UsageError → Text
  | .missingInput => "an input file is required"
  | .unknown argument => "unexpected argument '" ++ argument ++ "'"
  | .repeated argument => "the argument '" ++ argument ++ "' cannot be used multiple times"
  | .missingValue argument => "a value is required for '" ++ argument ++ "'"
  | .unexpectedValue argument => "no value is expected for '" ++ argument ++ "'"

structure Progress where
  /-- The arguments that are no options, last first. -/
  paths : List Text := []
  config : Option Text := none
  assetDirectory : Option Text := none
  noDiagrams : Bool := false
  quiet : Bool := false

namespace Progress

def addPath (progress : Progress) (path : Text) : Except UsageError Progress :=
  if progress.paths.length < 2 then .ok { progress with paths := path :: progress.paths }
  else .error (.unknown path)

def setQuiet (progress : Progress) : Except UsageError Progress :=
  if progress.quiet then .error (.repeated "--quiet") else .ok { progress with quiet := true }

def setNoDiagrams (progress : Progress) : Except UsageError Progress :=
  if progress.noDiagrams then .error (.repeated "--no-diagrams")
  else .ok { progress with noDiagrams := true }

def setConfig (progress : Progress) (value : Text) : Except UsageError Progress :=
  if progress.config.isSome then .error (.repeated "--config")
  else .ok { progress with config := some value }

def setAssetDirectory (progress : Progress) (value : Text) : Except UsageError Progress :=
  if progress.assetDirectory.isSome then .error (.repeated "--asset-dir")
  else .ok { progress with assetDirectory := some value }

def finish (progress : Progress) : Except UsageError Request :=
  match progress.paths.reverse with
  | [] => .error .missingInput
  | input :: rest =>
      .ok (.convert ⟨input, rest.head?, progress.config, progress.assetDirectory,
        progress.noDiagrams, progress.quiet⟩)

end Progress

/-- What an option does: it asks for a text instead of a conversion, or it is set. -/
inductive Effect where
  | ask (request : Request)
  | set (progress : Progress)

def flag? (progress : Progress) (name : Text) : Option (Except UsageError Effect) :=
  if name = "quiet".toList then some (progress.setQuiet.map .set)
  else if name = "no-diagrams".toList then some (progress.setNoDiagrams.map .set)
  else if name = "version".toList then some (.ok (.ask .version))
  else if name = "help".toList then some (.ok (.ask .help))
  else none

def setting? (progress : Progress) (name : Text) : Option (Text → Except UsageError Progress) :=
  if name = "config".toList then some progress.setConfig
  else if name = "asset-dir".toList then some progress.setAssetDirectory
  else none

def readLetters (progress : Progress) : (letters : Text) → Except UsageError Effect
  | [] => .ok (.set progress)
  | 'q' :: letters => do
      let progress ← progress.setQuiet
      readLetters progress letters
  | 'V' :: _ => .ok (.ask .version)
  | 'h' :: _ => .ok (.ask .help)
  | letter :: _ => .error (.unknown ['-', letter])

def looksLikeOption (argument : Text) : Bool := argument.head? == some '-' && argument != ['-']

/-- Reads arguments. After `--` all are paths; a request for a text ends the reading. -/
def read (progress : Progress) : (onlyPaths : Bool) → (arguments : List Text) →
    Except UsageError Request
  | _, [] => progress.finish
  | onlyPaths, argument :: arguments =>
      if onlyPaths || !looksLikeOption argument then do
        let progress ← progress.addPath argument
        read progress onlyPaths arguments
      else if argument = ['-', '-'] then read progress true arguments
      else
        match Text.stripStart? ['-', '-'] argument with
        | none => do
            match ← readLetters progress (argument.drop 1) with
            | .ask request => .ok request
            | .set progress => read progress false arguments
        | some long =>
            let name := long.takeWhile (· != '=')
            match long.dropWhile (· != '='), setting? progress name, flag? progress name with
            | _ :: value, some set, _ => do
                let progress ← set value
                read progress false arguments
            | [], some set, _ =>
                match arguments with
                | value :: arguments =>
                    if looksLikeOption value then .error (.missingValue ("--" ++ name))
                    else do
                      let progress ← set value
                      read progress false arguments
                | [] => .error (.missingValue ("--" ++ name))
            | _ :: _, none, some _ => .error (.unexpectedValue ("--" ++ name))
            | [], none, some effect => do
                match ← effect with
                | .ask request => .ok request
                | .set progress => read progress false arguments
            | _, none, none => .error (.unknown argument)

end Compositor.CommandLine
