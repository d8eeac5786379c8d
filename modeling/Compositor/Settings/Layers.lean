import Compositor.Host.System
import Compositor.Settings.Read
import Compositor.Toml.Document

/-! Settings in layers: built-in values, files, and overrides. -/

namespace Compositor.Settings

/-- What is laid over the built-in settings. An override counts over all files, wherever it
stands. -/
inductive Layer where
  | file (path : Path) (required : Bool)
  | override (key : Text) (value : Scalar)

def builtIn : Value :=
  .table [
    ("diagrams", .table [
      ("enabled", .scalar none (.flag true)),
      ("background", .scalar none (.text "white")),
      ("scale", .scalar none (.integer 2))]),
    ("compile", .table []),
    ("output", .table [
      ("asset_dir", .scalar none (.text "diagrams")),
      ("progress", .scalar none (.flag true))])]

def combine (files : List Value) (overrides : List (Key × Scalar)) : Value :=
  let base := files.foldl (fun base file => file.layOver base) builtIn
  overrides.foldl (fun base (key, value) => .setKey key (.scalar none value) base) base

def overrides : (layers : List Layer) → Except Failure (List (Key × Scalar))
  | [] => .ok []
  | .file _ _ :: layers => overrides layers
  | .override key value :: layers =>
      match Key.ofText key with
      | .error error => .error (.key error)
      | .ok key => (overrides layers).map ((key, value) :: ·)

def withTomlExtension (path : Path) : Path :=
  Path.withExtension path (match Path.extension? path with
    | some extension => extension ++ ".toml"
    | none => "toml")

def originOf (path : Path) : Text :=
  if Path.isAbsolute path then path
  else Path.ofComponents ((Path.components path).filter (· != .current))

def dropByteOrderMark : Text → Text
  | '\ufeff' :: text => text
  | text => text

variable {m : Type → Type} [Monad m]

def locate? (system : System m) (path : Path) : m (Option Path) := do
  if ← system.isFile path then return some path
  else if ← system.isFile (withTomlExtension path) then return some (withTomlExtension path)
  else return none

def readFile (system : System m) (path : Path) (required : Bool) : ExceptT Failure m Value := do
  let absent : ExceptT Failure m Value :=
    if required then throw (.missingFile path) else return .table []
  match ← (locate? system path : m _) with
  | none => absent
  | some found =>
      match ← (system.read found : m _) with
      | .error _ => absent
      | .ok bytes =>
          match Toml.read? (dropByteOrderMark (Text.ofBytesLossy bytes)) with
          | some value => return .ofToml (some (originOf found)) value
          | none => throw .syntaxError

def readFiles (system : System m) : (layers : List Layer) → ExceptT Failure m (List Value)
  | [] => return []
  | .override _ _ :: layers => readFiles system layers
  | .file path required :: layers => do
      let value ← readFile system path required
      return value :: (← readFiles system layers)

def load (system : System m) (layers : List Layer) : ExceptT Failure m Settings := do
  let overrides ← ExceptT.mk (pure (overrides layers))
  let files ← readFiles system layers
  ExceptT.mk (pure (ofValue (combine files overrides)))

end Compositor.Settings
