import Compositor.Number.Binary64

/-! Values of TOML documents, and tables while they are being written down. -/

namespace Compositor.Toml

inductive Value where
  | string (text : Text)
  | integer (number : Int)
  | float (number : Binary64)
  | boolean (flag : Bool)
  | dateTime (text : Text)
  | array (items : List Value)
  | table (entries : List (Text × Value))
  deriving Inhabited

/-- How a table came about. Only one that headers or keys merely pass through can be filled later,
and by the same means. -/
inductive TableKind where
  | explicit
  | passed
  | dotted
  deriving DecidableEq

inductive Item where
  | value (value : Value)
  | table (kind : TableKind) (entries : List (Text × Item))
  | tables (elements : List Item)
  deriving Inhabited

namespace Item

mutual
def toValue : Item → Value
  | .value content => content
  | .table _ entries => .table (entryValues entries)
  | .tables elements => .array (toValues elements)

def toValues : List Item → List Value
  | [] => []
  | item :: items => item.toValue :: toValues items

def entryValues : List (Text × Item) → List (Text × Value)
  | [] => []
  | (key, item) :: entries => (key, item.toValue) :: entryValues entries
end

def change (key : Text) (change? : Option Item → Option Item) :
    List (Text × Item) → Option (List (Text × Item))
  | [] => (change? none).map fun item => [(key, item)]
  | (other, item) :: entries =>
      if other = key then (change? (some item)).map fun item => (other, item) :: entries
      else (change key change? entries).map ((other, item) :: ·)

def changeLast (change? : Item → Option Item) : List Item → Option (List Item)
  | [] => none
  | [item] => (change? item).map fun item => [item]
  | item :: items => (changeLast change? items).map (item :: ·)

/-- Changes the table at the end of a path. Tables that are missing on the way are made. A path of
a dotted key enters no table with a header. -/
def changeAt (dotted : Bool) (change? : Item → Option Item) : (path : List Text) → Item →
    Option Item
  | [], item => change? item
  | key :: path, .table kind entries =>
      (change key (fun found => match found with
        | none =>
            changeAt dotted change? path (.table (if dotted then .dotted else .passed) [])
        | some (.table inner entries) =>
            if dotted && inner == .explicit then none
            else changeAt dotted change? path (.table inner entries)
        | some (.tables elements) =>
            (changeLast (changeAt dotted change? path) elements).map .tables
        | some (.value _) => none) entries).map (.table kind)
  | _ :: _, _ => none

/-- Adds a key to a table that has none of that name. The keys of a table that dotted keys made are
all dotted. -/
def addKey (dotted : Bool) (key : Text) (value : Item) : Item → Option Item
  | .table kind entries =>
      if (kind == .dotted) == dotted then
        (change key (fun found => if found.isNone then some value else none) entries).map
          (.table kind)
      else none
  | _ => none

def addValue (path : List Text) (key : Text) (value : Item) (table : Item) : Option Item :=
  changeAt true (addKey (!path.isEmpty) key value) path table

/-- Opens the table of a header: a new one, or one that headers only passed through. -/
def openTable (path : List Text) (key : Text) (root : Item) : Option Item :=
  changeAt false (fun parent => match parent with
    | .table kind entries =>
        (change key (fun found => match found with
          | none => some (.table .explicit [])
          | some (.table .passed entries) => some (.table .explicit entries)
          | some _ => none) entries).map (.table kind)
    | _ => none) path root

def openElement (path : List Text) (key : Text) (root : Item) : Option Item :=
  changeAt false (fun parent => match parent with
    | .table kind entries =>
        (change key (fun found => match found with
          | none => some (.tables [.table .explicit []])
          | some (.tables elements) => some (.tables (elements ++ [.table .explicit []]))
          | some _ => none) entries).map (.table kind)
    | _ => none) path root

end Item
end Compositor.Toml
