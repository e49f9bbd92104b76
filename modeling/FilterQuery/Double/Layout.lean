import FilterQuery.Double.Shortest
import FilterQuery.Text.Basic

/-!
# The text of a double

The digits of a double are laid out in one of two ways: in full, with a decimal point, or in
scientific notation.  Where one ends and the other begins is the choice of a format and is kept in
one value, `Double.jsonLayout`.
-/

namespace FilterQuery.Double

/-- The powers of ten of the leading digit at which a number is written in full. -/
structure Layout where
  fullFrom : Int
  fullTo : Int
  deriving DecidableEq, Repr

/-- The layout of the numbers of a JSON document: from `0.00001` to sixteen digits before the point
a number is written in full. -/
def jsonLayout : Layout := ⟨-5, 15⟩

/-- Zeros in a row. -/
def zeros (count : Nat) : Text :=
  List.replicate count '0'

/-- Digits in full, the leading one standing for `10 ^ power`.  There is always a digit on either
side of the point. -/
def inFull (digits : Text) (power : Int) : Text :=
  if power < 0 then
    "0.".toList ++ zeros (-power - 1).toNat ++ digits
  else
    let whole := power.toNat + 1
    if digits.length ≤ whole then
      digits ++ zeros (whole - digits.length) ++ ".0".toList
    else
      digits.take whole ++ '.' :: digits.drop whole

/-- Digits in scientific notation, the leading one standing for `10 ^ power`.  The exponent has a
sign, and a single digit has no point. -/
def scientific (digits : Text) (power : Int) : Text :=
  let sign := if power < 0 then '-' else '+'
  let exponent := 'e' :: sign :: Nat.toDigits 10 power.natAbs
  match digits with
  | first :: second :: rest => first :: '.' :: second :: rest ++ exponent
  | digits => digits ++ exponent

/-- A number without the zeros at its end. -/
def dropZeros (digits : Text) : Text :=
  (digits.reverse.dropWhile (· == '0')).reverse

/-- The text of the absolute value of a double. -/
def absText (layout : Layout) (d : Double) : Text :=
  if d.significand = 0 then
    "0.0".toList
  else
    let found := shortest d
    let digits := Nat.toDigits 10 found.1
    let power := found.2 + ((digits.length : Int) - 1)
    if layout.fullFrom ≤ power ∧ power ≤ layout.fullTo then
      inFull (dropZeros digits) power
    else
      scientific (dropZeros digits) power

/-- The text of a double.  Zero keeps its sign. -/
def text (layout : Layout) (d : Double) : Text :=
  if d.negative then '-' :: absText layout d else absText layout d

end FilterQuery.Double
