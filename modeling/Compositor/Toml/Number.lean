import Compositor.Toml.Quoted
import Compositor.Toml.Value

/-! Numbers, dates and times of TOML. -/

namespace Compositor.Toml

/-- The digits of a number without the underscores, each of which stands between two digits. -/
def joinDigits? (text : Text) : Option Text :=
  let pieces := Text.split (· == '_') text
  if pieces.any List.isEmpty then none else some pieces.flatten

def decimalDigits? (text : Text) : Option Text :=
  match joinDigits? text with
  | some ['0'] => some ['0']
  | some digits =>
      if digits.all Char.isDigit && digits.head? != some '0' then some digits else none
  | none => none

def magnitude? : Text → Option Nat
  | '0' :: 'x' :: digits => (joinDigits? digits).bind (Text.numberInBase? 16)
  | '0' :: 'o' :: digits => (joinDigits? digits).bind (Text.numberInBase? 8)
  | '0' :: 'b' :: digits => (joinDigits? digits).bind (Text.numberInBase? 2)
  | digits => (decimalDigits? digits).map (Text.digitsValue 0)

def isInteger (number : Int) : Bool := Int64.minValue.toInt ≤ number && number ≤ Int64.maxValue.toInt

/-- An integer; only decimal ones have a sign. -/
def integer? (text : Text) : Option Int :=
  let decimal (digits : Text) : Option Int :=
    (decimalDigits? digits).map fun digits => (Text.digitsValue 0 digits : Int)
  let number : Option Int := match text with
    | '-' :: digits => (decimal digits).map (- ·)
    | '+' :: digits => decimal digits
    | _ => (magnitude? text).map Int.ofNat
  number.filter isInteger

def isExponent : Text → Bool
  | mark :: rest =>
      let digits := (Binary64.readSign rest).rest
      (mark == 'e' || mark == 'E') && ((joinDigits? digits).map (·.all Char.isDigit)).getD false
  | [] => false

def isFloatForm (text : Text) : Bool :=
  let isDigit (character : Char) := character.isDigit || character == '_'
  let whole := text.takeWhile isDigit
  (decimalDigits? whole).isSome &&
    match text.dropWhile isDigit with
    | '.' :: rest =>
        let fraction := rest.takeWhile isDigit
        let exponent := rest.dropWhile isDigit
        ((joinDigits? fraction).map (·.all Char.isDigit)).getD false &&
          (exponent.isEmpty || isExponent exponent)
    | exponent => isExponent exponent

/-- A float. One too large to be a number is refused if it is positive. -/
def float? (text : Text) : Option Binary64 :=
  let signed := Binary64.readSign text
  if signed.rest = "inf".toList then some (.infinite signed.negative)
  else if signed.rest = "nan".toList then some .nan
  else if isFloatForm signed.rest then
    (Binary64.ofText? (text.filter (· != '_'))).filter (· != .infinite false)
  else none

/-! Dates and times. -/

def isLeapYear (year : Nat) : Bool := year % 4 == 0 && (year % 100 != 0 || year % 400 == 0)

def daysInMonth (year month : Nat) : Nat :=
  if month = 2 then (if isLeapYear year then 29 else 28)
  else if month ∈ [4, 6, 9, 11] then 30
  else 31

def field? (count low high : Nat) (text : Text) : Option Nat :=
  if text.length = count ∧ text.all Char.isDigit then
    (some (Text.digitsValue 0 text)).filter fun value => low ≤ value && value ≤ high
  else none

def isDate (text : Text) : Bool :=
  match Text.split (· == '-') text with
  | [year, month, day] =>
      ((do
        let year ← field? 4 0 9999 year
        let month ← field? 2 1 12 month
        field? 2 1 (daysInMonth year month) day) : Option Nat).isSome
  | _ => false

/-- A time as it is written out, with at most nine digits of the second and no zeros after them. -/
def time? (text : Text) : Option Text := do
  match Text.split (· == ':') text with
  | [hour, minute, second] =>
      let whole := second.takeWhile (· != '.')
      let _ ← field? 2 0 23 hour
      let _ ← field? 2 0 59 minute
      let _ ← field? 2 0 60 whole
      let clock := hour ++ ':' :: minute ++ ':' :: whole
      match second.dropWhile (· != '.') with
      | [] => some clock
      | _ :: digits =>
          if digits.isEmpty || !digits.all Char.isDigit then none
          else
            let fraction := ((digits.take 9).reverse.dropWhile (· == '0')).reverse
            some (if fraction.isEmpty then clock else clock ++ '.' :: fraction)
  | _ => none

/-- The distance from universal time as it is written out; no distance has a plus sign. -/
def offset? : Text → Option Text
  | ['Z'] | ['z'] => some ['Z']
  | sign :: text =>
      match Text.split (· == ':') text with
      | [hour, minute] => do
          let _ ← field? 2 0 23 hour
          let _ ← field? 2 0 59 minute
          let isZero := (hour ++ minute).all (· == '0')
          if sign = '+' ∨ sign = '-' then
            some ((if isZero then '+' else sign) :: hour ++ ':' :: minute)
          else none
      | _ => none
  | [] => none

def timeWithOffset? (text : Text) : Option Text := do
  let isClock (character : Char) := character.isDigit || character == ':' || character == '.'
  let time ← time? (text.takeWhile isClock)
  match text.dropWhile isClock with
  | [] => some time
  | offset => (offset? offset).map (time ++ ·)

def dateTime? (text : Text) : Option Text :=
  let date := text.take 10
  if isDate date then
    match text.drop 10 with
    | [] => some date
    | mark :: rest =>
        if mark = 'T' ∨ mark = 't' ∨ mark = ' ' then
          (timeWithOffset? rest).map fun time => date ++ 'T' :: time
        else none
  else time? text

def wordValue? (word : Text) : Option Value :=
  if word = "true".toList then some (.boolean true)
  else if word = "false".toList then some (.boolean false)
  else
    match dateTime? word, integer? word, float? word with
    | some text, _, _ => some (.dateTime text)
    | none, some number, _ => some (.integer number)
    | none, none, some number => some (.float number)
    | none, none, none => none

def isWordCharacter (character : Char) : Bool :=
  character.isAlphanum || character ∈ ['+', '-', '.', ':', '_']

/-- Reads a word without quotes. A date takes the time after a single space along. -/
def readWord? (text : Text) : Option (Value × Text) :=
  let word := text.takeWhile isWordCharacter
  let rest := text.dropWhile isWordCharacter
  let time := (rest.drop 1).takeWhile isWordCharacter
  if isDate word ∧ rest.head? = some ' ' ∧ (time.take 1).any Char.isDigit then
    (wordValue? (word ++ ' ' :: time)).map fun value =>
      (value, (rest.drop 1).dropWhile isWordCharacter)
  else (wordValue? word).map fun value => (value, rest)

end Compositor.Toml
