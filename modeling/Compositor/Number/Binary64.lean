import Compositor.Text.Basic

/-! Numbers of the 64-bit binary format as exact multiples of its smallest positive number. -/

namespace Compositor

inductive Binary64 where
  /-- The number `units / 2 ^ 1074`. -/
  | finite (negative : Bool) (units : Nat)
  | infinite (negative : Bool)
  | nan
  deriving DecidableEq

namespace Binary64

def divideToEven (numerator denominator : Nat) : Nat :=
  let quotient := numerator / denominator
  let twice := 2 * (numerator % denominator)
  if twice < denominator then quotient
  else if twice = denominator then quotient + quotient % 2
  else quotient + 1

/-- The distance from a multiple of the unit to the next larger number of the format: significands
have 53 bits. -/
def gap (units : Nat) : Nat := Nat.pow 2 (units.log2 - 52)

def ofFraction (negative : Bool) (numerator denominator : Nat) : Binary64 :=
  let scaled := numerator * Nat.pow 2 1074
  let step := gap (scaled / denominator)
  let units := divideToEven scaled (denominator * step) * step
  if units < Nat.pow 2 2098 then .finite negative units else .infinite negative

/-- The number nearest to `digits * 10 ^ scale`. Outside a wide range of magnitudes the answer is
known without the power. -/
def ofDecimal (negative : Bool) (digits : Nat) (scale : Int) : Binary64 :=
  let magnitude := (Nat.toDigits 10 digits).length + scale
  if digits = 0 ∨ magnitude < -400 then .finite negative 0
  else if 400 < magnitude then .infinite negative
  else if scale < 0 then ofFraction negative digits (Nat.pow 10 (-scale).toNat)
  else ofFraction negative (digits * Nat.pow 10 scale.toNat) 1

structure Signed where
  negative : Bool
  rest : Text

def readSign : Text → Signed
  | '-' :: rest => ⟨true, rest⟩
  | '+' :: rest => ⟨false, rest⟩
  | rest => ⟨false, rest⟩

def readExponent? : Text → Option Int
  | [] => some 0
  | mark :: rest =>
      if mark = 'e' ∨ mark = 'E' then
        let signed := readSign rest
        if signed.rest.isEmpty || !signed.rest.all Char.isDigit then none
        else
          let value : Int := Text.digitsValue 0 signed.rest
          some (if signed.negative then -value else value)
      else none

def readDecimal? (negative : Bool) (text : Text) : Option Binary64 :=
  let whole := text.takeWhile Char.isDigit
  let rest := text.dropWhile Char.isDigit
  let (fraction, rest) := match rest with
    | '.' :: rest => (rest.takeWhile Char.isDigit, rest.dropWhile Char.isDigit)
    | rest => ([], rest)
  if whole.isEmpty && fraction.isEmpty then none
  else (readExponent? rest).map fun exponent =>
    ofDecimal negative (Text.digitsValue 0 (whole ++ fraction)) (exponent - fraction.length)

def ofText? (text : Text) : Option Binary64 :=
  let signed := readSign text
  let word := signed.rest.map Char.toLower
  if word = "inf".toList ∨ word = "infinity".toList then some (.infinite signed.negative)
  else if word = "nan".toList then some .nan
  else readDecimal? signed.negative signed.rest

def isFinite : Binary64 → Bool
  | .finite _ _ => true
  | _ => false

def sameValue : Binary64 → Binary64 → Bool
  | .finite negative units, .finite negative' units' =>
      units == units' && (negative == negative' || units == 0)
  | value, value' => value == value'

end Binary64
end Compositor
