import Compositor.Number.Binary64

/-! The shortest decimal that reads back as a number, and the ways in which it is written. -/

namespace Compositor.Binary64

structure Decimal where
  digits : Nat
  scale : Int
  deriving DecidableEq

/-- The reals that round to a number of the format, in quarters of the unit. -/
structure Interval where
  low : Nat
  high : Nat
  closed : Bool

/-- Below a power of two the numbers lie twice as dense. The ends of the interval belong to it if
the significand is even. -/
def interval (units : Nat) : Interval :=
  let step := gap units
  let below := if 1 < step ∧ units = Nat.pow 2 units.log2 then step else 2 * step
  { low := 4 * units - below
    high := 4 * units + 2 * step
    closed := units / step % 2 = 0 }

/-- A grid of decimals: one step of it is `step / factor` quarters of the unit. -/
structure Grid where
  step : Nat
  factor : Nat

def grid (scale : Int) : Grid :=
  if scale < 0 then ⟨Nat.pow 2 1076, Nat.pow 10 (-scale).toNat⟩
  else ⟨Nat.pow 10 scale.toNat * Nat.pow 2 1076, 1⟩

def Interval.holds (interval : Interval) (grid : Grid) (digits : Nat) : Bool :=
  let point := digits * grid.step
  if interval.closed then
    interval.low * grid.factor ≤ point && point ≤ interval.high * grid.factor
  else interval.low * grid.factor < point && point < interval.high * grid.factor

def gridPoint? (units : Nat) (scale : Int) : Option Nat :=
  let grid := grid scale
  let interval := interval units
  let value := 4 * units * grid.factor
  let below := value / grid.step
  let twice := 2 * (value % grid.step)
  match interval.holds grid below && below != 0, interval.holds grid (below + 1) with
  | true, true =>
      some (if twice < grid.step || (twice == grid.step && below % 2 == 0) then below
        else below + 1)
  | true, false => some below
  | false, true => some (below + 1)
  | false, false => none

def searchGrid (units : Nat) : (tries : Nat) → (scale : Int) → Decimal
  | 0, scale => ⟨4 * units * (grid scale).factor / (grid scale).step, scale⟩
  | tries + 1, scale =>
      match gridPoint? units scale with
      | some digits => ⟨digits, scale⟩
      | none => searchGrid units tries (scale - 1)

/-- The shortest decimal that reads back as `units`; seventeen digits always do. -/
def shortest (units : Nat) : Decimal :=
  if units = 0 then ⟨0, 0⟩
  else searchGrid units 24 (((units.log2 : Int) - 1074) * 30103 / 100000 + 2)

def Decimal.pointed (decimal : Decimal) : Text × Int :=
  let digits := Text.ofNat decimal.digits
  (digits, digits.length + decimal.scale)

def Decimal.sides (decimal : Decimal) : Text × Text :=
  let (digits, point) := decimal.pointed
  if point ≤ 0 then (['0'], List.replicate (-point).toNat '0' ++ digits)
  else
    let digits := digits ++ List.replicate (point.toNat - digits.length) '0'
    (digits.take point.toNat, digits.drop point.toNat)

def positionalText : Binary64 → Text
  | .finite negative units =>
      let (whole, fraction) := (shortest units).sides
      (if negative then ['-'] else []) ++ whole ++
        (if units = 0 ∨ fraction.isEmpty then [] else '.' :: fraction)
  | .infinite negative => if negative then "-inf" else "inf"
  | .nan => "NaN"

def Decimal.scientific (decimal : Decimal) : Text :=
  let (digits, point) := decimal.pointed
  let exponent := point - 1
  digits.take 1 ++ (if digits.length ≤ 1 then [] else '.' :: digits.drop 1) ++ ['e'] ++
    (if exponent < 0 then ['-'] else []) ++ Text.ofNat exponent.natAbs

end Compositor.Binary64
