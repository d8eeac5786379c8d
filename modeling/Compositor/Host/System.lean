import Compositor.Files.Tree

/-! What a program asks of the system that it runs on: files, variables of the environment, and
other programs. -/

namespace Compositor

inductive Kind where
  | file (executable : Bool)
  | directory
  deriving DecidableEq

structure Launch where
  program : Path
  arguments : List Text
  bindings : List (Text × Text) := []

inductive Status where
  | exited (code : Nat)
  | signalled (number : Nat)
  deriving DecidableEq

def Status.isSuccess (status : Status) : Bool := status == .exited 0

def signalNames : List Text :=
  ["SIGHUP", "SIGINT", "SIGQUIT", "SIGILL", "SIGTRAP", "SIGABRT", "SIGBUS", "SIGFPE", "SIGKILL",
    "SIGUSR1", "SIGSEGV", "SIGUSR2", "SIGPIPE", "SIGALRM", "SIGTERM", "SIGSTKFLT", "SIGCHLD",
    "SIGCONT", "SIGSTOP", "SIGTSTP", "SIGTTIN", "SIGTTOU", "SIGURG", "SIGXCPU", "SIGXFSZ",
    "SIGVTALRM", "SIGPROF", "SIGWINCH", "SIGIO", "SIGPWR", "SIGSYS"].map String.toList

def signalName (number : Nat) : Text := (signalNames[number - 1]?).getD []

def Status.message : Status → Text
  | .exited code => "exit status: " ++ Text.ofNat code
  | .signalled number => "signal: " ++ Text.ofNat number ++ " (" ++ signalName number ++ ")"

structure Ending where
  status : Status
  errors : Bytes

structure System (m : Type → Type) where
  environment? : (name : Text) → m (Option Text)
  kind? : Path → m (Option Kind)
  read : Path → m (Except FileError Bytes)
  write : Path → Bytes → m (Except FileError Unit)
  append : Path → Bytes → m (Except FileError Unit)
  createDirectory : Path → m (Except FileError Unit)
  copy : (source destination : Path) → m (Except FileError Unit)
  launch : Launch → m (Except FileError Ending)

namespace System

variable {m : Type → Type} [Monad m]

def lift {State : Type} (system : System m) : System (StateT State m) where
  environment? name := system.environment? name
  kind? path := system.kind? path
  read path := system.read path
  write path content := system.write path content
  append path content := system.append path content
  createDirectory path := system.createDirectory path
  copy source destination := system.copy source destination
  launch launch := system.launch launch

def isFile (system : System m) (path : Path) : m Bool := do
  match ← system.kind? path with
  | some (.file _) => return true
  | _ => return false

def isDirectory (system : System m) (path : Path) : m Bool := do
  return (← system.kind? path) == some .directory

def exists? (system : System m) (path : Path) : m Bool := do
  return (← system.kind? path).isSome

def readText (system : System m) (path : Path) : m (Except FileError Text) := do
  match ← system.read path with
  | .ok bytes =>
      match Text.ofBytes? bytes with
      | some text => return .ok text
      | none => return .error .notText
  | .error error => return .error error

def ensureDirectory (system : System m) (path : Path) : m (Except FileError Unit) := do
  match ← system.createDirectory path with
  | .ok _ => return .ok ()
  | .error error => if ← system.isDirectory path then return .ok () else return .error error

/-- Makes the first of the paths, each of which is in the next one, and before it those that are
missing. -/
def createChain (system : System m) : (chain : List Path) → m (Except FileError Unit)
  | [] => return .error .noParent
  | path :: above => do
      if path.isEmpty then return .ok ()
      match ← system.ensureDirectory path with
      | .error .notFound =>
          match ← createChain system above with
          | .ok _ => system.ensureDirectory path
          | .error error => return .error error
      | result => return result

end System

namespace Path

def listed (paths : Text) : List Path := (Text.split (· == ':') paths).filter (! ·.isEmpty)

def chain : (bound : Nat) → Path → List Path
  | 0, path => [path]
  | bound + 1, path =>
      match parent? path with
      | some parent => path :: chain bound parent
      | none => [path]

def selfAndAbove (path : Path) : List Path := chain path.length path

end Path

namespace System

variable {m : Type → Type} [Monad m]

def createDirectories (system : System m) (path : Path) : m (Except FileError Unit) :=
  system.createChain (Path.selfAndAbove path)

def findIn? (system : System m) (name : Text) : (directories : List Path) → m (Option Path)
  | [] => return none
  | directory :: directories => do
      let path := Path.join directory name
      if (← system.kind? path) = some (.file true) then return some path
      else findIn? system name directories

def findProgram? (system : System m) (name : Text) : m (Option Path) := do
  system.findIn? name (Path.listed ((← system.environment? "PATH").getD []))

end System
end Compositor
