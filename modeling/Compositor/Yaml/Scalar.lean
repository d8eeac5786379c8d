import Compositor.Yaml.ScalarText
import Compositor.Yaml.Value

/-! What plain scalars stand for. -/

namespace Compositor.Yaml

/-- Digits with a leading zero are a text. -/
def isPaddedDigits (text : Text) : Bool :=
  match (Binary64.readSign text).rest with
  | '0' :: digit :: digits => (digit :: digits).all Char.isDigit
  | _ => false

def readMagnitude? : Text → Option Nat
  | '0' :: 'x' :: digits => Text.numberInBase? 16 digits
  | '0' :: 'o' :: digits => Text.numberInBase? 8 digits
  | '0' :: 'b' :: digits => Text.numberInBase? 2 digits
  | digits => Text.numberInBase? 10 digits

def readInt? (text : Text) : Option Int :=
  if isPaddedDigits text then none
  else
    let signed := Binary64.readSign text
    (readMagnitude? signed.rest).map fun magnitude => if signed.negative then -magnitude else magnitude

def isIntegerValue (number : Int) : Bool := Int64.minValue.toInt ≤ number && number < UInt64.size

/-- Integers this large and no value are an error, and not another kind of value. -/
def isWideInteger (number : Int) : Bool := -Nat.pow 2 127 ≤ number && number < Nat.pow 2 128

inductive IntegerText where
  | none
  | value (number : Int)
  | tooLarge

def integerText (text : Text) : IntegerText :=
  match readInt? text with
  | some number =>
      if isIntegerValue number then .value number
      else if isWideInteger number then .tooLarge
      else .none
  | none => .none

def readBool? (text : Text) : Option Bool :=
  if ["true".toList, "True".toList, "TRUE".toList].contains text then some true
  else if ["false".toList, "False".toList, "FALSE".toList].contains text then some false
  else none

def isNullWord (text : Text) : Bool :=
  ["null".toList, "Null".toList, "NULL".toList, "~".toList].contains text

def readFloat? (text : Text) : Option Binary64 :=
  let infinities := [".inf".toList, ".Inf".toList, ".INF".toList]
  let unsigned := (Text.stripStart? ['+'] text).getD text
  if infinities.contains unsigned then some (.infinite false)
  else if (Text.stripStart? ['-'] text).any infinities.contains then some (.infinite true)
  else if [".nan".toList, ".NaN".toList, ".NAN".toList].contains text then some .nan
  else (Binary64.ofText? text).filter Binary64.isFinite

def plainValue? (text : Text) : Option Value :=
  if text.isEmpty || isNullWord text then some .null
  else
    match readBool? text, integerText text with
    | some flag, _ => some (.bool flag)
    | none, .value number => some (.int number)
    | none, .tooLarge => none
    | none, .none =>
        if isPaddedDigits text then some (.string text)
        else
          match readFloat? text with
          | some number => some (.float number)
          | none => some (.string text)

/-- The value of a scalar whose tag names a type of the core schema; a text of another type is an
error. Other types leave a text. -/
def typedValue? (name text : Text) : Option Value :=
  if name = "bool".toList then (readBool? text).map .bool
  else if name = "int".toList then
    match integerText text with
    | .value number => some (.int number)
    | _ => none
  else if name = "float".toList then (readFloat? text).map .float
  else if name = "null".toList then if isNullWord text then some .null else none
  else some (.string text)

def scalarValue? (plain : Bool) (text : Text) : Option Value :=
  if plain then plainValue? text else some (.string text)

/-- The name of a local tag, which starts with `!`. The tag `!` names itself. -/
def localName? : Text → Option Text
  | ['!'] => some ['!']
  | '!' :: name => some name
  | _ => none

def taggedValue? (tag : Option Text) (plain : Bool) (text : Text) : Option Value :=
  match tag with
  | none => scalarValue? plain text
  | some tag =>
      match localName? tag, Text.stripStart? "tag:yaml.org,2002:" tag with
      | some name, _ => (scalarValue? plain text).map (.tagged name)
      | none, some name => typedValue? name text
      | none, none => some (.string text)

end Compositor.Yaml
