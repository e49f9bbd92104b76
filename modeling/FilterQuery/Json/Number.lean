import FilterQuery.Double.Layout
import FilterQuery.Json.Fault
import FilterQuery.Text.Decimal

/-!
# Numbers of a JSON text

A number without fraction and exponent is an integer as far as 64 bits go: from `-2 ^ 63` to
`2 ^ 64 - 1`.  Any other number is the double next to it, minus zero included, since an integer has
no negative zero.  A number whose double would be infinite is refused.

* `Numeral`: a number as it is written, part by part.
* `Number.ofNumeral?`: the number that it stands for.
* `Number.text`: the text of a number.
-/

namespace FilterQuery.Json

/-- A number as it is written: its sign, the digits before the point, the digits after it and the
exponent. -/
structure Numeral where
  negative : Bool
  whole : Text
  fraction : Option Text
  exponent : Option Int
  deriving DecidableEq, Repr

namespace Numeral

/-- The fault of a number that is cut off by the end of the text.  A skipped number is malformed
then, since nobody waits for its value. -/
def endFault : Use → Fault
  | .kept => .ended
  | .skipped => .malformed

/-- Reads one or more digits. -/
def readDigits (use : Use) (text : Text) : Except Fault (Text × Text) :=
  let digits := text.takeWhile Char.isDigit
  if !digits.isEmpty then .ok (digits, text.dropWhile Char.isDigit)
  else if text.isEmpty then .error (endFault use)
  else .error .malformed

/-- Reads the digits before the point.  A zero stands alone. -/
def readWhole (use : Use) (text : Text) : Except Fault (Text × Text) := do
  let (digits, rest) ← readDigits use text
  match digits with
  | '0' :: _ :: _ => .error .malformed
  | digits => .ok (digits, rest)

/-- Reads the point and the digits after it, if there is one. -/
def readFraction (use : Use) : Text → Except Fault (Option Text × Text)
  | '.' :: rest => do
    let (digits, rest) ← readDigits use rest
    .ok (some digits, rest)
  | text => .ok (none, text)

/-- Takes an optional sign off a text. -/
def dropSign : Text → Bool × Text
  | '-' :: rest => (true, rest)
  | '+' :: rest => (false, rest)
  | text => (false, text)

/-- Reads an exponent after its letter. -/
def readPower (use : Use) (text : Text) : Except Fault (Int × Text) := do
  let (negative, text) := dropSign text
  let (digits, rest) ← readDigits use text
  let power : Int := Text.digitsValue digits
  .ok (if negative then -power else power, rest)

/-- Reads the exponent, if there is one. -/
def readExponent (use : Use) : Text → Except Fault (Option Int × Text)
  | 'e' :: rest => do
    let (power, rest) ← readPower use rest
    .ok (some power, rest)
  | 'E' :: rest => do
    let (power, rest) ← readPower use rest
    .ok (some power, rest)
  | text => .ok (none, text)

/-- Reads a number after its sign. -/
def readUnsigned (use : Use) (negative : Bool) (text : Text) : Except Fault (Numeral × Text) := do
  let (whole, text) ← readWhole use text
  let (fraction, text) ← readFraction use text
  let (exponent, text) ← readExponent use text
  .ok (⟨negative, whole, fraction, exponent⟩, text)

/-- Reads a number. -/
def read (use : Use) : Text → Except Fault (Numeral × Text)
  | '-' :: rest => readUnsigned use true rest
  | text => readUnsigned use false text

/-- The double next to the number. -/
def toDouble? (numeral : Numeral) : Option Double :=
  let fraction := numeral.fraction.getD []
  let digits := Text.digitsValue (numeral.whole ++ fraction)
  Double.ofDecimal? numeral.negative digits (numeral.exponent.getD 0 - fraction.length)

end Numeral

/-- The value of a number. -/
inductive Number where
  | integer (n : Int)
  | double (d : Double)
  deriving DecidableEq, Repr

namespace Number

/-- The greatest number whose negation fits in 64 bits. -/
def greatestNegated : Nat := 0x8000000000000000

/-- The integer that a number stands for, where it is written as one and fits in 64 bits. -/
def integerOf? (numeral : Numeral) : Option Int :=
  if numeral.fraction.isSome || numeral.exponent.isSome then
    none
  else
    let n := Text.digitsValue numeral.whole
    if numeral.negative then
      if 0 < n ∧ n ≤ greatestNegated then some (-(n : Int)) else none
    else
      if n < UInt64.size then some n else none

/-- The value of a number, or none where it would be infinite. -/
def ofNumeral? (numeral : Numeral) : Option Number :=
  match integerOf? numeral with
  | some n => some (.integer n)
  | none => numeral.toDouble?.map .double

/-- The text of a number. -/
def text : Number → Text
  | .integer n => if n < 0 then '-' :: Text.ofNat n.natAbs else Text.ofNat n.natAbs
  | .double d => d.text Double.jsonLayout

end Number

end FilterQuery.Json
