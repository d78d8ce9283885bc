namespace BlockSync.Decimal

/-!
# The shortest decimal of a binary number

A binary floating point number is shown with the fewest significant digits that read back as the
same number, and among those with the nearest ones. The search looks at grids of one, two, up to
seventeen digits: if any point of a grid reads back, one of the value's two neighbours does.
-/

/-- A decimal `digits · 10 ^ exponent`. -/
structure Scaled where
  digits : Nat
  exponent : Int
  deriving Repr, DecidableEq

/--
The numbers that round to a given one, as multiples of a common unit: the value lies between
`low` and `high`, which themselves belong to it when `closed` holds.
-/
structure RoundingInterval where
  low : Nat
  value : Nat
  high : Nat
  unit : Nat
  closed : Bool

/-- The rounding interval of `mantissa · 2 ^ exponent`; below a power of two the gap is halved. -/
def RoundingInterval.ofBinary
    (mantissa : Nat)
    (exponent : Int)
    (gapHalves : Bool) :
    RoundingInterval :=
  let scale := Nat.pow 2 (exponent - 2).toNat
  {
    low := (4 * mantissa - if gapHalves then 1 else 2) * scale
    value := 4 * mantissa * scale
    high := (4 * mantissa + 2) * scale
    unit := Nat.pow 2 (2 - exponent).toNat
    closed := mantissa % 2 == 0
  }

namespace RoundingInterval

/-- Whether `point · 10 ^ exponent` rounds to the value. -/
def holds (interval : RoundingInterval) (point : Nat) (exponent : Int) : Bool :=
  let scaled := point * interval.unit * Nat.pow 10 exponent.toNat
  let factor := Nat.pow 10 (-exponent).toNat
  if interval.closed then
    interval.low * factor ≤ scaled && scaled ≤ interval.high * factor
  else
    interval.low * factor < scaled && scaled < interval.high * factor

/--
The nearer of the value's neighbours on the grid of multiples of `10 ^ exponent` that read back;
an exact tie goes to the even one.
-/
def nearestOn? (interval : RoundingInterval) (exponent : Int) : Option Nat :=
  let value := interval.value * Nat.pow 10 (-exponent).toNat
  let step := interval.unit * Nat.pow 10 exponent.toNat
  let below := value / step
  let above := below + 1
  match interval.holds below exponent, interval.holds above exponent with
  | true, true =>
      let toBelow := value - below * step
      let toAbove := above * step - value
      if toBelow < toAbove || (toBelow == toAbove && below % 2 == 0) then some below
      else some above
  | true, false => some below
  | false, true => some above
  | false, false => none

/-- The least `e` from a start on with `value < 10 ^ e`, found within the given number of steps. -/
def magnitudeFrom (interval : RoundingInterval) : Nat → Int → Int
  | 0, e => e
  | fuel + 1, e =>
      if interval.value * Nat.pow 10 (-e).toNat < interval.unit * Nat.pow 10 e.toNat then e
      else interval.magnitudeFrom fuel (e + 1)

/-- The first grid, from coarse to fine, that has a point which reads back. -/
def firstGrid (interval : RoundingInterval) : Nat → Int → Scaled
  | 0, exponent => ⟨(interval.nearestOn? exponent).getD 0, exponent⟩
  | fuel + 1, exponent =>
      match interval.nearestOn? exponent with
      | some point => ⟨point, exponent⟩
      | none => interval.firstGrid fuel (exponent - 1)

end RoundingInterval

/-- Moves trailing zeros of the digits into the exponent. -/
def Scaled.stripFrom : Nat → Scaled → Scaled
  | 0, decimal => decimal
  | fuel + 1, decimal =>
      if decimal.digits % 10 == 0 && decimal.digits != 0 then
        stripFrom fuel ⟨decimal.digits / 10, decimal.exponent + 1⟩
      else
        decimal

/-- The shortest decimal that reads back as `mantissa · 2 ^ exponent`. -/
def shortest (mantissa : Nat) (exponent : Int) (gapHalves : Bool) : Scaled :=
  let interval := RoundingInterval.ofBinary mantissa exponent gapHalves
  let estimate := (Int.ofNat mantissa.log2 + exponent) * 30103 / 100000 - 1
  let magnitude := interval.magnitudeFrom 4 estimate
  (interval.firstGrid 17 (magnitude - 1)).stripFrom 20

end BlockSync.Decimal
