import EntityQuery.Text.Digits
/-!
# `Text.Shortest` — the fewest digits that read back

A binary floating-point number stands for an interval of reals: those that round to it. Its shortest
decimal is the one with the fewest digits inside that interval, and among those the one nearest to the
number itself; of two equally near the larger is taken.

The number is `m · 2^q` with `m > 0`. All arithmetic is exact, over multiples of the unit `2^(q - 2)`: the
number is `4m` units, the interval reaches two units up and two down, or only one down where the numbers
below lie twice as dense. Its ends belong to it exactly when `m` is even.

On the grid of multiples of `10^k` only two points can be nearest to the number, the one at or below it and
the next; so testing those two on ever finer grids finds the shortest decimal.

## Contents
* `BinaryNumber`, a positive number with what decides its interval.
* `BinaryNumber.shortest`, its shortest decimal as a coefficient and a power of ten.
* `positionalText`, a decimal written out without exponent.
-/

namespace EntityQuery

/-- A positive number `significand · 2^exponent`, marked when its lower neighbour is half as far away as its
    upper one. -/
structure BinaryNumber where
  significand : Nat
  exponent : Int
  narrowBelow : Bool

namespace BinaryNumber

/-- `a · 10^k` and `b · 2^e`, both multiplied by the one factor that makes them whole. -/
def common (a : Nat) (k : Int) (b : Nat) (e : Int) : Nat × Nat :=
  (a * Nat.pow 10 k.toNat * Nat.pow 2 (-e).toNat, b * Nat.pow 2 e.toNat * Nat.pow 10 (-k).toNat)

/-- The exponent of the unit in which the interval is measured. -/
def unit (v : BinaryNumber) : Int := v.exponent - 2

/-- Whether `d · 10^k` rounds to the number. -/
def holds (v : BinaryNumber) (d : Nat) (k : Int) : Bool :=
  let low := common d k (4 * v.significand - if v.narrowBelow then 1 else 2) v.unit
  let high := common d k (4 * v.significand + 2) v.unit
  -- a decimal halfway between two numbers rounds to the one of even significand
  if v.significand % 2 == 0 then low.2 ≤ low.1 && high.1 ≤ high.2
  else low.2 < low.1 && high.1 < high.2

/-- How many digits stand before the decimal point; zero or negative for numbers below one tenth. -/
def magnitude (v : BinaryNumber) : Int :=
  -- a ten for every two below the line makes the number whole, so that its digits can be counted
  let shift := (-v.unit).toNat
  let whole := 4 * v.significand * Nat.pow 2 v.unit.toNat * Nat.pow 10 shift / Nat.pow 2 shift
  (Nat.toDigits 10 whole).length - shift

/-- The point of the grid `10^k` at or below the number. -/
def floorOn (v : BinaryNumber) (k : Int) : Nat :=
  let scaled := common 1 k (4 * v.significand) v.unit
  scaled.2 / scaled.1

/-- Whether the number lies nearer to the grid point `d` below it than to the next one. -/
def nearerBelow (v : BinaryNumber) (d : Nat) (k : Int) : Bool :=
  let here := common d k (4 * v.significand) v.unit
  let next := common (d + 1) k (4 * v.significand) v.unit
  here.2 - here.1 < next.1 - next.2

/-- The point of the grid `10^k` that rounds to the number and is nearest to it, if one does. -/
def onGrid? (v : BinaryNumber) (k : Int) : Option Nat :=
  let d := v.floorOn k
  match v.holds d k, v.holds (d + 1) k with
  -- a number in the middle between two points of the grid goes to the upper one
  | true, true => some (if v.nearerBelow d k then d else d + 1)
  | true, false => some d
  | false, true => some (d + 1)
  | false, false => none

/-- The most digits a number of the supported formats can need. -/
def maxDigits : Nat := 17

/-- The shortest decimal of the number: a coefficient and its power of ten. -/
def shortest (v : BinaryNumber) : Nat × Int :=
  -- one digit first, then two, and so on: the first grid that has a point has the fewest digits
  let finest := v.magnitude - maxDigits
  ((List.range maxDigits).findSome? fun (n : Nat) =>
      let k := v.magnitude - (n + 1)
      (v.onGrid? k).map (·, k)).getD (v.floorOn finest, finest)

end BinaryNumber

/-- `d · 10^k` written out without exponent, and without zeros at the end of its fraction. -/
def positionalText (d : Nat) (k : Int) : String :=
  if 0 ≤ k then toString (d * Nat.pow 10 k.toNat)
  else
    -- the coefficient may end in zeros when the number is a round one
    let places := (-k).toNat
    let fraction := ((fixedDigits 10 places d).reverse.dropWhile (· == '0')).reverse
    let whole := toString (d / Nat.pow 10 places)
    if fraction.isEmpty then whole else whole ++ "." ++ String.ofList fraction

end EntityQuery
