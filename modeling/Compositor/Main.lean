import Compositor.CommandLine.Run
import Compositor.Shell.Execution

/-! The program on the system that it is started on. Tools are run if they are scripts; the
permission to run a file is not looked at. -/

namespace Compositor

def FileError.ofError : IO.Error → FileError
  | .noFileOrDirectory .. => .notFound
  | .noSuchThing .. => .notFound
  | .permissionDenied .. => .denied
  | .alreadyExists .. => .exists
  | .inappropriateType .. => .isDirectory
  | error => .other (toString error).toList

def attempt {α : Type} (action : IO α) : IO (Except FileError α) := do
  match ← action.toBaseIO with
  | .ok value => return .ok value
  | .error error => return .error (.ofError error)

def byteArray (bytes : Bytes) : ByteArray := ⟨bytes.toArray⟩

def appendBytes (path : String) (bytes : Bytes) : IO Unit :=
  IO.FS.withFile path .append fun file => file.write (byteArray bytes)

def kindOf? (path : String) : IO (Option Kind) := do
  match ← (do let file ← IO.FS.realPath path; return (← file.metadata).type : IO _).toBaseIO with
  | .ok .dir => return some .directory
  | .ok _ => return some (.file true)
  | .error _ => return none

def processFiles : System IO where
  environment? name := return ((← IO.getEnv (String.ofList name)).map String.toList)
  kind? path := kindOf? (String.ofList path)
  read path := attempt do return (← IO.FS.readBinFile (String.ofList path)).toList
  write path bytes := attempt (IO.FS.writeBinFile (String.ofList path) (byteArray bytes))
  append path bytes := attempt (appendBytes (String.ofList path) bytes)
  createDirectory path := attempt (IO.FS.createDir (String.ofList path))
  copy source destination := attempt do
    IO.FS.writeBinFile (String.ofList destination) (byteArray [])
    IO.FS.writeBinFile (String.ofList destination) (← IO.FS.readBinFile (String.ofList source))
  launch _ := return .error .notFound

def programPath? (name : Path) : IO (Option Path) := do
  if name.any (· == '/') then return some name else processFiles.findProgram? name

def launchScript (launch : Launch) : IO (Except FileError Ending) := do
  match ← programPath? launch.program with
  | none => return .error .notFound
  | some path =>
      match ← processFiles.read path with
      | .error error => return .error error
      | .ok content => Shell.execute processFiles content { launch with program := path }

def process : System IO := { processFiles with launch := launchScript }

def printMessage (message : CommandLine.Message) : IO Unit :=
  match message.channel with
  | .output => IO.print (String.ofList message.text)
  | .errors => IO.eprint (String.ofList message.text)

end Compositor

def main (arguments : List String) : IO UInt32 := do
  let code ← Compositor.CommandLine.run Compositor.process Compositor.printMessage
    (arguments.map String.toList)
  return UInt32.ofNat code
