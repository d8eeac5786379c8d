import Compositor.Settings.Key
import Compositor.Toml.Value

/-! Values of settings, and how they are laid over each other. -/

namespace Compositor.Settings

inductive Scalar where
  | nothing
  | flag (value : Bool)
  | integer (value : Int)
  | float (value : Binary64)
  | text (value : Text)

/-- Scalars and lists remember the file that they come from, if any. -/
inductive Value where
  | scalar (origin : Option Text) (content : Scalar)
  | list (origin : Option Text) (items : List Value)
  | table (entries : List (Text × Value))
  deriving Inhabited

namespace Value

mutual
def ofToml (origin : Option Text) : Toml.Value → Value
  | .string text => .scalar origin (.text text)
  | .integer number => .scalar origin (.integer number)
  | .float number => .scalar origin (.float number)
  | .boolean flag => .scalar origin (.flag flag)
  | .dateTime text => .scalar origin (.text text)
  | .array items => .list origin (ofTomls origin items)
  | .table entries => .table (ofTomlEntries origin entries)

def ofTomls (origin : Option Text) : List Toml.Value → List Value
  | [] => []
  | item :: items => ofToml origin item :: ofTomls origin items

def ofTomlEntries (origin : Option Text) : List (Text × Toml.Value) → List (Text × Value)
  | [] => []
  | (key, value) :: entries => (key, ofToml origin value) :: ofTomlEntries origin entries
end

/-- Names count in lower case. The Kelvin sign is the only other letter with a lower case in the
names of settings. -/
def lowerCase (name : Text) : Text :=
  name.map fun character => if character = '\u212a' then 'k' else character.toLower

def entries : Value → List (Text × Value)
  | .table entries => entries
  | _ => []

def changeEntry (name : Text) (change : Option Value → Value) :
    List (Text × Value) → List (Text × Value)
  | [] => [(name, change none)]
  | (other, value) :: entries =>
      if other = name then (other, change (some value)) :: entries
      else (other, value) :: changeEntry name change entries

mutual
/-- A table with a value under a name. A table is laid over the one that is there; whatever else is
there makes room. -/
def set (name : Text) : (value : Value) → (base : Value) → Value
  | .table incoming, base =>
      .table (changeEntry (lowerCase name)
        (fun found => setAll incoming (found.getD (.table []))) base.entries)
  | .scalar origin content, base =>
      .table (changeEntry (lowerCase name) (fun _ => .scalar origin content) base.entries)
  | .list origin items, base =>
      .table (changeEntry (lowerCase name) (fun _ => .list origin items) base.entries)

def setAll : (incoming : List (Text × Value)) → (base : Value) → Value
  | [], base => base
  | (name, value) :: incoming, base => setAll incoming (set name value base)
end

def items : Value → List Value
  | .list _ items => items
  | _ => []

def changeItem (index : Int) (change : Value → Value) (items : List Value) : List Value :=
  let place := if index < 0 then items.length - index.natAbs else index.natAbs
  let filled := items ++ List.replicate (place + 1 - items.length) (.scalar none .nothing)
  filled.modify place change

def setAt (value : Value) : (steps : List Step) → (base : Value) → Value
  | [], _ => value
  | [.child name], base => set name value base
  | .child name :: steps, base =>
      .table (changeEntry name
        (fun found => setAt value steps (found.getD (.scalar none .nothing))) base.entries)
  | .place index :: steps, base => .list none (changeItem index (setAt value steps) base.items)

def setKey (key : Key) (value base : Value) : Value := setAt value (.child key.first :: key.steps) base

def setNamed (name : Text) (value base : Value) : Value :=
  match Key.ofText name with
  | .ok key => setKey key value base
  | .error _ => set name value base

def layOver (layer base : Value) : Value :=
  layer.entries.foldl (fun base (name, value) => setNamed name value base) base

def lookUp? (name : Text) (value : Value) : Option Value := value.entries.lookup name

end Value
end Compositor.Settings
