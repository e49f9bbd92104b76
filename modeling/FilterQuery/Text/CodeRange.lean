import FilterQuery.Text.Basic

/-!
# Ranges of code points

A property of characters that is given by a table is a list of ranges of code points.
-/

namespace FilterQuery

/-- The code points from `first` to `last`, both included. -/
structure CodeRange where
  first : Nat
  last : Nat
  deriving DecidableEq, Repr

namespace CodeRange

/-- Whether a code point lies in the range. -/
def contains (range : CodeRange) (code : Nat) : Bool :=
  range.first ≤ code && code ≤ range.last

end CodeRange

namespace Text

/-- Whether a character lies in one of the ranges. -/
def isIn (ranges : List CodeRange) (c : Char) : Bool :=
  ranges.any fun range => range.contains c.toNat

/-- A code point outside the surrogates is that of its character. -/
theorem toNat_ofNat {code : Nat} (h : code.isValidChar) : (Char.ofNat code).toNat = code := by
  rw [Char.ofNat, dif_pos h]
  rfl

end Text

end FilterQuery
