import FilterQuery.Text.UpperTable
import FilterQuery.Text.LowerTable
import FilterQuery.Text.CasedTable

/-!
# Upper and lower case

The full case mappings of Unicode, free of any language.  One character may become several: the
upper case of `ß` is `SS`, the lower case of `İ` is an `i` with a combining dot.

Lower-casing looks at one context only.  A capital sigma that ends a word becomes `ς`, any other
one `σ`.  It ends a word when the nearest character before it that case does not look through is
a letter with case, and the nearest one after it is not.

* `upperChar`, `lowerChar`: the mapping of one character.
* `capitalize`: a text with its first character in upper case.
* `lowercase`: a text in lower case.
-/

namespace FilterQuery.Text

/-- The image of a character under a mapping that is given by its expansions and its runs. -/
def mapCase (expansions : List (Nat × List Nat)) (runs : List CaseRun) (c : Char) : Text :=
  match expansions.lookup c.toNat with
  | some codes => codes.map Char.ofNat
  | none =>
    match CaseRun.lookup? runs c.toNat with
    | some code => [Char.ofNat code]
    | none => [c]

/-- The upper case of a character. -/
def upperChar (c : Char) : Text :=
  mapCase upperExpansions upperRuns c

/-- The lower case of a character that stands alone. -/
def lowerChar (c : Char) : Text :=
  mapCase lowerExpansions lowerRuns c

/-- A text with its first character in upper case and the rest as it is. -/
def capitalize : Text → Text
  | [] => []
  | c :: rest => upperChar c ++ rest

/-! ## The sigma that ends a word -/

/-- Whether the nearest character that case does not look through is a letter with case. -/
def meetsCased (text : Text) : Bool :=
  match text.dropWhile (isIn caseIgnorableRanges) with
  | c :: _ => isIn casedRanges c
  | [] => false

/-- Whether a word ends between the text `before`, given from its end, and the text `after`. -/
def endsWord (before after : Text) : Bool :=
  meetsCased before && !meetsCased after

/-- The lower case of a text that stands after the text `before`, which is given from its end. -/
def lowercaseAfter (before : Text) : Text → Text
  | [] => []
  | c :: rest =>
    let lower :=
      if c = 'Σ' then
        [if endsWord before rest then 'ς' else 'σ']
      else
        lowerChar c
    lower ++ lowercaseAfter (c :: before) rest

/-- A text in lower case. -/
def lowercase (text : Text) : Text :=
  lowercaseAfter [] text

end FilterQuery.Text
