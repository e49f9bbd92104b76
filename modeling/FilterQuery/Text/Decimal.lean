import FilterQuery.Text.Basic

/-!
# Counts in decimal

Page numbers and row counts are unsigned numbers of 64 bits.  `Text.ofNat` writes one without
leading zeros; `Text.readCount?` reads one back.  The reader is a little wider than the writer:
one plus sign and any number of leading zeros may stand in front.  It refuses what does not fit
in 64 bits, so a number is never read as another one.
-/

namespace FilterQuery.Text

/-- The decimal digits of a number, without leading zeros. -/
def ofNat (n : Nat) : Text :=
  Nat.toDigits 10 n

/-- The number that a digit stands for. -/
def digitValue (c : Char) : Nat :=
  c.toNat - '0'.toNat

/-- The number that a list of digits stands for, the first digit being the highest. -/
def digitsValue (digits : Text) : Nat :=
  digits.foldl (fun value c => 10 * value + digitValue c) 0

/-- A text without the plus sign that it may start with. -/
def dropPlus : Text → Text
  | '+' :: rest => rest
  | text => text

/-- The number that a text stands for: an optional plus sign, then one or more decimal digits,
whose value is below `2 ^ 64`. -/
def readCount? (text : Text) : Option UInt64 :=
  let digits := dropPlus text
  if !digits.isEmpty && digits.all Char.isDigit && digitsValue digits < UInt64.size then
    some (UInt64.ofNat (digitsValue digits))
  else
    none

end FilterQuery.Text
