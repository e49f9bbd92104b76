import FilterQuery.Text.Basic

/-!
# Hexadecimal digits

Escapes in URLs and in JSON strings give bytes and code units by hexadecimal digits.  Either case
is read; which one is written is the choice of the writer, given by its first letter.
-/

namespace FilterQuery.Text

/-- The digit of a number below sixteen; `letter` is the digit of ten. -/
def hexDigit (letter : Char) (n : Nat) : Char :=
  Char.ofNat (if n < 10 then '0'.toNat + n else letter.toNat + (n - 10))

/-- The number that a hexadecimal digit stands for. -/
def hexValue? (c : Char) : Option Nat :=
  if '0' ≤ c ∧ c ≤ '9' then some (c.toNat - '0'.toNat)
  else if 'A' ≤ c ∧ c ≤ 'F' then some (c.toNat - 'A'.toNat + 10)
  else if 'a' ≤ c ∧ c ≤ 'f' then some (c.toNat - 'a'.toNat + 10)
  else none

/-- The byte that two hexadecimal digits stand for. -/
def hexByte? (high low : Char) : Option Nat :=
  match hexValue? high, hexValue? low with
  | some h, some l => some (16 * h + l)
  | _, _ => none

end FilterQuery.Text
