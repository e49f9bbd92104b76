import FilterQuery.Text.Basic

/-!
# Faults of a JSON text

A JSON text is read from the left, and reading stops at the first fault.  There are three kinds: the
text ends too early, what stands there is not JSON, or it is JSON of the wrong kind for the place.
A text with several faults is refused for the first one in reading order.

A value may also be skipped, where nobody asks what it is.  A skipped value has to be well-formed,
but its strings are not decoded and its numbers are not computed, so fewer texts are refused.
-/

namespace FilterQuery.Json

/-- Why a text cannot be read. -/
inductive Fault where
  /-- The text ends before the value does. -/
  | ended
  /-- What stands there is not JSON. -/
  | malformed
  /-- What stands there is JSON, but no value of the kind that belongs there. -/
  | mismatched
  deriving DecidableEq, Repr

/-- What a value is read for. -/
inductive Use where
  /-- The value is needed. -/
  | kept
  /-- The value only has to be passed over. -/
  | skipped
  deriving DecidableEq, Repr

/-- Whether a character is white space between the tokens of a JSON text. -/
def isSpace (c : Char) : Bool :=
  c = ' ' || c = '\n' || c = '\t' || c = '\r'

/-- A text without the white space in front of it. -/
def dropSpace (text : Text) : Text :=
  text.dropWhile isSpace

/-- Reads exactly the characters of a word. -/
def readWord : Text → Text → Except Fault Text
  | [], text => .ok text
  | _ :: _, [] => .error .ended
  | c :: word, d :: text => if c = d then readWord word text else .error .malformed

end FilterQuery.Json
