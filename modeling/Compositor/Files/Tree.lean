import Compositor.Path.Basic
import Compositor.Text.Bytes

/-! Files and directories as a value, and what can be done with them by path. -/

namespace Compositor

inductive FileError where
  | notFound
  | denied
  | exists
  | notDirectory
  | isDirectory
  | badFormat
  | nulInPath
  | notText
  | noParent
  | other (reason : Text)
  deriving DecidableEq

def FileError.cause : FileError → Text × Option Nat
  | .notFound => ("No such file or directory", some 2)
  | .badFormat => ("Exec format error", some 8)
  | .denied => ("Permission denied", some 13)
  | .exists => ("File exists", some 17)
  | .notDirectory => ("Not a directory", some 20)
  | .isDirectory => ("Is a directory", some 21)
  | .nulInPath => ("file name contained an unexpected NUL byte", none)
  | .notText => ("stream did not contain valid UTF-8", none)
  | .noParent => ("failed to create whole tree", none)
  | .other reason => (reason, none)

def FileError.message (error : FileError) : Text :=
  match error.cause with
  | (words, some number) => words ++ " (os error " ++ Text.ofNat number ++ ")"
  | (words, none) => words

inductive Entry where
  | file (content : Bytes) (executable : Bool)
  | directory
  deriving DecidableEq

abbrev Location := List Text

structure FileTree where
  entries : List (Location × Entry) := []

namespace FileTree

def find? (tree : FileTree) (location : Location) : Option Entry :=
  if location.isEmpty then some .directory else tree.entries.lookup location

def setEntry (location : Location) (entry : Entry) :
    List (Location × Entry) → List (Location × Entry)
  | [] => [(location, entry)]
  | other :: entries =>
      if other.1 = location then (location, entry) :: entries
      else other :: setEntry location entry entries

def set (tree : FileTree) (location : Location) (entry : Entry) : FileTree :=
  ⟨setEntry location entry tree.entries⟩

def step (tree : FileTree) (location : Location) (segment : Text) : Except FileError Location :=
  match tree.find? location with
  | none => .error .notFound
  | some (.file _ _) => .error .notDirectory
  | some .directory =>
      if Path.isIdle segment then .ok location
      else if segment = ['.', '.'] then .ok location.dropLast
      else .ok (location ++ [segment])

/-- The location that a path leads to from a working directory. Everything on the way exists, but
at the end there may be nothing. -/
def locate (tree : FileTree) (working : Location) (path : Path) : Except FileError Location :=
  if path.isEmpty then .error .notFound
  else if path.any (· == '\x00') then .error .nulInPath
  else
    (Path.segments path).foldlM (step tree) (if Path.isAbsolute path then [] else working)

def entryAt? (tree : FileTree) (working : Location) (path : Path) : Option Entry :=
  match tree.locate working path with
  | .ok location => tree.find? location
  | .error _ => none

def read (tree : FileTree) (working : Location) (path : Path) : Except FileError Bytes :=
  match tree.locate working path with
  | .error error => .error error
  | .ok location =>
      match tree.find? location with
      | none => .error .notFound
      | some .directory => .error .isDirectory
      | some (.file content _) => .ok content

def locateFile (tree : FileTree) (working : Location) (path : Path) :
    Except FileError Location := do
  let location ← tree.locate working
    (Path.trimSlashes path)
  if path.getLast? = some '/' ∨ tree.find? location = some .directory then .error .isDirectory
  else .ok location

def isExecutable (tree : FileTree) (location : Location) : Bool :=
  match tree.find? location with
  | some (.file _ executable) => executable
  | _ => false

def write (tree : FileTree) (working : Location) (path : Path) (content : Bytes) :
    Except FileError FileTree := do
  let location ← tree.locateFile working path
  .ok (tree.set location (.file content (tree.isExecutable location)))

def append (tree : FileTree) (working : Location) (path : Path) (content : Bytes) :
    Except FileError FileTree := do
  let location ← tree.locateFile working path
  let old := match tree.find? location with
    | some (.file content _) => content
    | _ => []
  .ok (tree.set location (.file (old ++ content) (tree.isExecutable location)))

def createDirectory (tree : FileTree) (working : Location) (path : Path) :
    Except FileError FileTree := do
  let location ← tree.locate working
    (Path.trimSlashes path)
  if (tree.find? location).isSome then .error .exists else .ok (tree.set location .directory)

/-- Copies a file with its permission to be run. The destination is emptied before the source is
read, so a file copied onto itself is empty afterwards. -/
def copy (tree : FileTree) (working : Location) (source destination : Path) :
    Except FileError FileTree := do
  let _ ← tree.read working source
  let location ← tree.locate working source
  let executable := tree.isExecutable location
  let target ← tree.locateFile working destination
  let emptied := tree.set target (.file [] executable)
  let content ← emptied.read working source
  .ok (emptied.set target (.file content executable))

def place (tree : FileTree) (location : Location) (entry : Entry) : FileTree :=
  let above := ((List.range location.length).map location.take).filter fun part =>
    (tree.find? part).isNone
  (above.foldl (fun tree part => tree.set part .directory) tree).set location entry

def Entry.content? : Entry → Option Bytes
  | .file content _ => some content
  | .directory => none

def changedSince (tree earlier : FileTree) : List (Location × Option Bytes) :=
  (tree.entries.map fun (location, entry) => (location, Entry.content? entry)).filter
    fun (location, content) => (earlier.find? location).map Entry.content? != some content

theorem find?_setEntry_self (location : Location) (entry : Entry)
    (entries : List (Location × Entry)) :
    (setEntry location entry entries).lookup location = some entry := by
  induction entries with
  | nil => simp [setEntry]
  | cons other entries ih =>
      simp only [setEntry]
      split
      next => simp
      next different =>
        rw [List.lookup_cons]
        have : (location == other.1) = false := by
          simpa using fun equal => different equal.symm
        simp [this, ih]

theorem find?_setEntry_other {location other : Location} (different : other ≠ location)
    (entry : Entry) (entries : List (Location × Entry)) :
    (setEntry location entry entries).lookup other = entries.lookup other := by
  induction entries with
  | nil => simp [setEntry, different]
  | cons first entries ih =>
      simp only [setEntry]
      split
      next same =>
        rw [List.lookup_cons, List.lookup_cons, same]
        have : (other == location) = false := by simpa using different
        simp [this]
      next => rw [List.lookup_cons, List.lookup_cons, ih]

theorem find?_set_self (tree : FileTree) {location : Location} (named : location ≠ [])
    (entry : Entry) : (tree.set location entry).find? location = some entry := by
  simp [find?, set, named, find?_setEntry_self]

theorem find?_set_other (tree : FileTree) {location other : Location} (different : other ≠ location)
    (entry : Entry) : (tree.set location entry).find? other = tree.find? other := by
  simp only [find?, set]
  split
  next => rfl
  next => exact find?_setEntry_other different entry tree.entries

end FileTree
end Compositor
