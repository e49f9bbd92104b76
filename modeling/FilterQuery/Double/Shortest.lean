import FilterQuery.Double.Basic

/-!
# The fewest digits that read back

A double is written with the fewest decimal digits from which the same double is read.  The
numbers that round to a double form an interval around it, whose two ends belong to it exactly
when the significand is even.  Fewest digits means the coarsest power of ten of which some multiple
lies in that interval.  On that grid only the two neighbours of the double need to be tried; where
both lie in the interval the nearer one is taken, and on a tie the even one.

Below a power of two the doubles are twice as dense, so there the lower half of the interval is
half as wide.  All numbers are counted in quarters of the distance to the next double, which makes
the three bounds integers.
-/

namespace FilterQuery.Double

/-- The numbers that round to a double, in quarters of the distance to the next one. -/
structure Interval where
  low : Nat
  value : Nat
  high : Nat
  closed : Bool
  deriving DecidableEq, Repr

/-- The interval of the numbers that round to the absolute value of a double. -/
def interval (d : Double) : Interval :=
  let narrow := d.significand = fullSignificand ∧ leastExponent < d.exponent
  { low := 4 * d.significand - (if narrow then 1 else 2)
    value := 4 * d.significand
    high := 4 * d.significand + 2
    closed := d.significand % 2 == 0 }

/-- Whether `multiple / scale` lies in the interval `[low, high] / unit`. -/
def Interval.holds (bounds : Interval) (unit scale multiple : Nat) : Bool :=
  if bounds.closed then
    bounds.low * unit ≤ multiple * scale && multiple * scale ≤ bounds.high * unit
  else
    bounds.low * unit < multiple * scale && multiple * scale < bounds.high * unit

/-- The multiple of `10 ^ power` that is taken for a double, if one rounds to it. -/
def multipleAt? (d : Double) (power : Int) : Option Nat :=
  let bounds := interval d
  let tens := powerRatio 10 power
  let twos := powerRatio 2 (d.exponent - 2)
  let scale := tens.1 * twos.2
  let unit := tens.2 * twos.1
  let below := bounds.value * unit / scale
  let above := below + 1
  match bounds.holds unit scale below, bounds.holds unit scale above with
  | true, true =>
    let fromBelow := bounds.value * unit - below * scale
    let fromAbove := above * scale - bounds.value * unit
    if fromBelow < fromAbove ∨ (fromBelow = fromAbove ∧ below % 2 = 0) then some below
    else some above
  | true, false => some below
  | false, true => some above
  | false, false => none

/-- The coarsest grid from `power` downwards that has a multiple for a double. -/
def searchGrid (d : Double) (power : Int) : Nat → Nat × Int
  | 0 => (0, 0)
  | steps + 1 =>
    match multipleAt? d power with
    | some multiple => (multiple, power)
    | none => searchGrid d (power - 1) steps

/-- A power of ten above the absolute value of a double. -/
def powerAbove (d : Double) : Nat :=
  (Nat.toDigits 10 (d.significand * Nat.pow 2 d.exponent.toNat)).length

/-- How many grids lie between the largest double and the finest one that is ever needed. -/
def gridCount : Nat := 700

/-- The fewest digits that read back as the absolute value of a double that is not zero, with the
power of ten of the last one. -/
def shortest (d : Double) : Nat × Int :=
  searchGrid d (powerAbove d) gridCount

end FilterQuery.Double
