/-!
# Doubles as exact numbers

A number of a JSON document that is not an integer is kept as the double next to it.  A finite
double is a sign, a significand below `2 ^ 53` and a binary exponent, so everything about it can be
decided with natural numbers.

* `Double`: a finite double.
* `Double.ofRatio?`: the double next to a ratio, a tie going to the even significand; none where it
  would be infinite.
* `Double.ofDecimal?`: the double next to a number in scientific notation.
-/

namespace FilterQuery

/-- The finite double `± significand * 2 ^ exponent`.  The exponent is at least `-1074`, and only at
`-1074` may the significand be below `2 ^ 52`. -/
structure Double where
  negative : Bool
  significand : Nat
  exponent : Int
  deriving DecidableEq, Repr

namespace Double

/-- The number of bits of a full significand, less one. -/
def fractionBits : Nat := 52

/-- The least full significand, `2 ^ 52`. -/
def fullSignificand : Nat := 0x10000000000000

/-- The exponent of the smallest doubles. -/
def leastExponent : Int := -1074

/-- The exponent of the largest doubles. -/
def greatestExponent : Int := 971

/-- The quotient of two numbers, rounded to the nearest integer, a tie going to the even one. -/
def divideToEven (numerator denominator : Nat) : Nat :=
  let quotient := numerator / denominator
  let twice := 2 * (numerator % denominator)
  if twice < denominator ∨ (twice = denominator ∧ quotient % 2 = 0) then quotient else quotient + 1

/-- `base ^ exponent` above the bar of a fraction and below it. -/
def powerRatio (base : Nat) (exponent : Int) : Nat × Nat :=
  (Nat.pow base exponent.toNat, Nat.pow base (-exponent).toNat)

/-- The ratio of two positive numbers over `2 ^ exponent`, as a fraction. -/
def scaled (numerator denominator : Nat) (exponent : Int) : Nat × Nat :=
  let power := powerRatio 2 exponent
  (numerator * power.2, denominator * power.1)

/-- The exponent at which a ratio of two positive numbers has a full integer part, or the least
exponent where that one is larger.  The logarithms fix it up to one. -/
def exponentOf (numerator denominator : Nat) : Int :=
  let guess := (numerator.log2 : Int) - denominator.log2 - fractionBits
  let atGuess := scaled numerator denominator guess
  let exponent := if atGuess.1 / atGuess.2 < fullSignificand then guess - 1 else guess
  max exponent leastExponent

/-- The double next to a ratio of natural numbers, or none where that is infinite. -/
def ofRatio? (negative : Bool) (numerator denominator : Nat) : Option Double :=
  if numerator = 0 then
    some ⟨negative, 0, leastExponent⟩
  else
    let exponent := exponentOf numerator denominator
    let fraction := scaled numerator denominator exponent
    let rounded := divideToEven fraction.1 fraction.2
    let carried := rounded = 2 * fullSignificand
    let significand := if carried then fullSignificand else rounded
    let exponent := if carried then exponent + 1 else exponent
    if exponent ≤ greatestExponent then some ⟨negative, significand, exponent⟩ else none

/-- A power of ten from which on every number with a digit other than zero is infinite. -/
def overflowPower : Int := 310

/-- A power of ten below which a number with that many digits to spare is zero. -/
def underflowPower : Int := -330

/-- The double next to `± digits * 10 ^ power`, or none where that is infinite.  A power far out
of range is not computed: it decides the answer by itself. -/
def ofDecimal? (negative : Bool) (digits : Nat) (power : Int) : Option Double :=
  if digits = 0 then
    some ⟨negative, 0, leastExponent⟩
  else if power ≥ overflowPower then
    none
  else if power + (digits.log2 + 1 : Nat) < underflowPower then
    some ⟨negative, 0, leastExponent⟩
  else
    let tens := powerRatio 10 power
    ofRatio? negative (digits * tens.1) tens.2

end Double

end FilterQuery
