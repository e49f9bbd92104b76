import FilterQuery.Text.Basic

/-!
# Runs of a case mapping

A case mapping moves most letters in runs: a stretch of the code space, every letter of it or
every second one, is moved as a whole.  A table of runs is therefore short, and what holds of a
mapping is checked run by run.
-/

namespace FilterQuery

/-- The code points `first`, `first + step`, … up to `last`, moved so that `first` goes to
`target`. -/
structure CaseRun where
  first : Nat
  last : Nat
  step : Nat
  target : Nat
  deriving DecidableEq, Repr

namespace CaseRun

/-- Whether the run moves a code point. -/
def covers (run : CaseRun) (code : Nat) : Bool :=
  run.first ≤ code && code ≤ run.last && (code - run.first) % run.step == 0

/-- Where the run moves a code point that it covers. -/
def image (run : CaseRun) (code : Nat) : Nat :=
  run.target + (code - run.first)

/-- The image of a code point under a table of runs, if one of them moves it. -/
def lookup? (table : List CaseRun) (code : Nat) : Option Nat :=
  (table.find? fun run => run.covers code).map fun run => run.image code

end CaseRun

end FilterQuery
