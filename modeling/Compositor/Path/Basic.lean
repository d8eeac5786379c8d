import Compositor.Text.Basic

/-! Paths as texts with slashes: joining, and the views of a path as a list of components. -/

namespace Compositor

/-- A path is kept as it was written; only its components are normalised. -/
abbrev Path := Text

namespace Path

inductive Component where
  | root
  | current
  | parent
  | normal (name : Text)
  deriving DecidableEq

def Component.text : Component → Text
  | .root => "/"
  | .current => "."
  | .parent => ".."
  | .normal name => name

def isAbsolute (path : Path) : Bool := path.head? == some '/'

/-- An absolute second path replaces the first one. -/
def join (base path : Path) : Path :=
  if isAbsolute path then path
  else if base.isEmpty || base.getLast? == some '/' then base ++ path
  else base ++ '/' :: path

def segments (path : Path) : List Text := Text.split (· == '/') path

def isIdle (segment : Text) : Bool := segment.isEmpty || segment == ['.']

def Component.ofSegment (segment : Text) : Component :=
  if segment = ['.', '.'] then .parent else .normal segment

def Component.ofFirst (segment : Text) : Component :=
  if segment = ['.'] then .current else ofSegment segment

/-- The components of a path. A leading dot counts, later ones and repeated slashes do not. -/
def components (path : Path) : List Component :=
  match segments path with
  | [] => []
  | first :: rest =>
      let later := (rest.filter (! isIdle ·)).map Component.ofSegment
      if isAbsolute path then .root :: later
      else if first.isEmpty then later
      else Component.ofFirst first :: later

def ofComponents (components : List Component) : Path :=
  components.foldl (fun path component => join path component.text) []

structure Cut where
  first : Text
  before : List Text
  last : Text

def cut (path : Path) : Cut ⊕ Text :=
  match segments path with
  | [] => .inr []
  | first :: rest =>
      match rest.reverse.dropWhile isIdle with
      | [] => .inr first
      | last :: before => .inl ⟨first, before, last⟩

def ofSegments (first : Text) (rest : List Text) : Path :=
  if first.isEmpty && rest.isEmpty then "/" else Text.join "/" (first :: rest)

def trimSlashes (path : Path) : Path :=
  match path.reverse.dropWhile (· == '/') with
  | [] => path.take 1
  | trimmed => trimmed.reverse

def parent? (path : Path) : Option Path :=
  match cut path with
  | .inl part => some (ofSegments part.first (part.before.dropWhile isIdle).reverse)
  | .inr first => if first.isEmpty then none else some []

def directory (path : Path) : Path :=
  match parent? path with
  | some parent => if parent.isEmpty then "." else parent
  | none => "."

def fileName? (path : Path) : Option Text :=
  let name := match cut path with
    | .inl part => part.last
    | .inr first => first
  if name.isEmpty || name == ['.'] || name == ['.', '.'] then none else some name

def splitName (name : Text) : Text × Option Text :=
  let ending := name.reverse.takeWhile (· != '.')
  match name.reverse.dropWhile (· != '.') with
  | [] => (name, none)
  | [_] => (name, none)
  | _ :: stem => (stem.reverse, some ending.reverse)

def extension? (path : Path) : Option Text := (fileName? path).bind fun name => (splitName name).2

def stem? (path : Path) : Option Text := (fileName? path).map fun name => (splitName name).1

/-- The path with the extension of its file name replaced or added. A path without a file name
stays as it is; what follows the file name is dropped. -/
def withExtension (path : Path) (extension : Text) : Path :=
  match fileName? path with
  | none => path
  | some name =>
      let renamed := (splitName name).1 ++ '.' :: extension
      match cut path with
      | .inl part => Text.join "/" (part.first :: (part.before.reverse ++ [renamed]))
      | .inr _ => renamed

end Path
end Compositor
