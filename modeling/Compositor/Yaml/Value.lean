import Compositor.Number.Shortest

/-! Values of YAML documents and what can be read off them. -/

namespace Compositor.Yaml

inductive Value where
  | null
  | bool (flag : Bool)
  | int (number : Int)
  | float (number : Binary64)
  | string (text : Text)
  | sequence (items : List Value)
  | mapping (entries : List (Value × Value))
  | tagged (tag : Text) (value : Value)
  deriving Inhabited

/-- A float as YAML writes it: a point in every number that has no exponent, and no exponent from
`0.00001` up to 16 digits before the point. -/
def floatText : Binary64 → Text
  | .finite negative units =>
      let decimal := Binary64.shortest units
      let (_, point) := decimal.pointed
      let (whole, fraction) := decimal.sides
      (if negative then ['-'] else []) ++
        (if units = 0 then ['0', '.', '0']
          else if -5 < point ∧ point ≤ 16 then
            whole ++ '.' :: (if fraction.isEmpty then ['0'] else fraction)
          else decimal.scientific)
  | .infinite negative => if negative then "-.inf" else ".inf"
  | .nan => ".nan"

def intText (number : Int) : Text :=
  (if number < 0 then ['-'] else []) ++ Text.ofNat number.natAbs

namespace Value

def untag : Value → Value
  | .tagged _ value => untag value
  | value => value

/-- The text of a scalar. Tags do not count; null and collections have none. -/
def scalarText? : Value → Option Text
  | .string text => some text
  | .int number => some (intText number)
  | .float number => some (floatText number)
  | .bool flag => some (if flag then "true" else "false")
  | .tagged _ value => scalarText? value
  | .null | .sequence _ | .mapping _ => none

def bool? (value : Value) : Option Bool :=
  match value.untag with
  | .bool flag => some flag
  | _ => none

def nat? (value : Value) : Option Nat :=
  match value.untag with
  | .int (.ofNat number) => some number
  | _ => none

def entries? (value : Value) : Option (List (Value × Value)) :=
  match value.untag with
  | .mapping entries => some entries
  | _ => none

def isNull (value : Value) : Bool :=
  match value.untag with
  | .null => true
  | _ => false

def isKey (name : Text) : Value → Bool
  | .string text => text == name
  | _ => false

mutual
/-- Equality of keys. Mappings are equal if they hold the same entries in any order. -/
def same : Value → Value → Bool
  | .null, .null => true
  | .bool flag, .bool flag' => flag == flag'
  | .int number, .int number' => number == number'
  | .float number, .float number' => Binary64.sameValue number number'
  | .string text, .string text' => text == text'
  | .sequence items, .sequence items' => sameItems items items'
  | .mapping entries, .mapping entries' =>
      entries.length == entries'.length && holdsEntries entries' entries
  | .tagged tag value, .tagged tag' value' => tag == tag' && same value value'
  | _, _ => false
  termination_by structural value => value

def sameItems : List Value → List Value → Bool
  | [], [] => true
  | item :: items, item' :: items' => same item item' && sameItems items items'
  | _, _ => false
  termination_by structural items => items

def holdsEntries (entries' : List (Value × Value)) : List (Value × Value) → Bool
  | [] => true
  | entry :: entries => holdsEntry entries' entry && holdsEntries entries' entries
  termination_by structural entries => entries

def holdsEntry : List (Value × Value) → Value × Value → Bool
  | entries', (key, value) => entries'.any fun entry => same key entry.1 && same value entry.2
  termination_by structural _ entry => entry
end

end Value

def lookup? (entries : List (Value × Value)) (name : Text) : Option Value :=
  ((entries.find? (·.1.isKey name)).map Prod.snd).filter (! ·.isNull)

/-- The entries with a key set: its old value is replaced in place, a new key comes last. -/
def insert (key value : Value) : List (Value × Value) → List (Value × Value)
  | [] => [(key, value)]
  | entry :: entries =>
      if Value.same key entry.1 then (entry.1, value) :: entries
      else entry :: insert key value entries

end Compositor.Yaml
