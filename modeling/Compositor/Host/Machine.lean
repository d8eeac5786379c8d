import Compositor.Host.System

/-! A system whose files are a value. -/

namespace Compositor

structure Machine where
  environment : List (Text × Text)
  working : Location
  /-- What a program with this content does when it is run. The launch names the program by its
  path. -/
  execute : (content : Bytes) → Launch → StateM FileTree (Except FileError Ending)

namespace Machine

structure Program where
  path : Path
  content : Bytes

def programAt (machine : Machine) (tree : FileTree) (path : Path) : Except FileError Program := do
  let location ← tree.locate machine.working path
  match tree.find? location with
  | some (.file content true) => .ok ⟨path, content⟩
  | some _ => .error .denied
  | none => .error .notFound

/-- The first program that can be run. A file that cannot be run is an error only if no other is
found. -/
def firstProgram (machine : Machine) (tree : FileTree) : (paths : List Path) →
    Except FileError Program
  | [] => .error .notFound
  | path :: paths =>
      match machine.programAt tree path, firstProgram machine tree paths with
      | .ok program, _ => .ok program
      | .error _, .ok program => .ok program
      | .error .denied, .error _ => .error .denied
      | .error _, .error error => .error error

def lookUp (machine : Machine) (tree : FileTree) (name : Path) : Except FileError Program :=
  if name.any (· == '/') then machine.programAt tree name
  else if name.isEmpty then .error .notFound
  else
    let search := (machine.environment.lookup ("PATH" : Text)).getD []
    machine.firstProgram tree ((Path.listed search).map (Path.join · name))

def update (operation : FileTree → Except FileError FileTree) :
    StateM FileTree (Except FileError Unit) :=
  fun tree => match operation tree with
    | .ok changed => (.ok (), changed)
    | .error error => (.error error, tree)

def system (machine : Machine) : System (StateM FileTree) where
  environment? name := return machine.environment.lookup name
  kind? path := do
    match (← get).entryAt? machine.working path with
    | some (.file _ executable) => return some (.file executable)
    | some .directory => return some .directory
    | none => return none
  read path := do return (← get).read machine.working path
  write path content := update (·.write machine.working path content)
  append path content := update (·.append machine.working path content)
  createDirectory path := update (·.createDirectory machine.working path)
  copy source destination := update (·.copy machine.working source destination)
  launch launch := do
    match machine.lookUp (← get) launch.program with
    | .ok program => machine.execute program.content { launch with program := program.path }
    | .error error => return .error error

end Machine
end Compositor
