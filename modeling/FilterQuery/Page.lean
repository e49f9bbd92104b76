import FilterQuery.Failure
import FilterQuery.QueryString
import FilterQuery.Text.Blank
import FilterQuery.Text.Decimal
import FilterQuery.Traced

/-!
# Pages

A page is the rows from an offset on, as many as the page is long.  Pages are counted from one, and
page zero is read as page one.  Numbers have 64 bits; an offset that does not fit is the greatest
number there is, never a smaller one.

Numbers come in as the values of parameters.  Of several parameters with one name the last counts,
and blanks around a number are ignored.

* `Page.offset`: the number of rows before a page.
* `Page.parameters`: what a page is sent as.
* `Params.last?`, `Params.number?`: the last value of a name, and the number that it is.
* `Page.ofParams`: the page that parameters ask for.
-/

namespace FilterQuery

/-- The greatest number of 64 bits. -/
def greatestCount : Nat := UInt64.size - 1

/-- A page of rows: its number, and how many rows are on it. -/
structure Page where
  number : UInt64
  size : UInt64
  deriving DecidableEq, Repr

namespace Page

/-- The number of rows before the page, as far as 64 bits go. -/
def offset (page : Page) : UInt64 :=
  UInt64.ofNat (min ((page.number.toNat - 1) * page.size.toNat) greatestCount)

end Page

/-- The decimal text of a number. -/
def countText (n : UInt64) : Text :=
  Text.ofNat n.toNat

/-! ## What is sent -/

/-- The parameter that limits the number of rows. -/
def topParameter (n : UInt64) : Text × Text :=
  ("$top".toList, countText n)

/-- The parameter that leaves rows out. -/
def skipParameter (n : UInt64) : Text × Text :=
  ("$skip".toList, countText n)

/-- The parameter that asks for the number of all rows. -/
def countParameter : Text × Text :=
  ("$count".toList, "true".toList)

namespace Page

/-- The parameters of a page.  Nothing is left out before the first row. -/
def parameters (page : Page) : List (Text × Text) :=
  (if 0 < page.offset then [skipParameter page.offset] else []) ++
    [topParameter page.size, countParameter]

/-- What a page appends to a URL. -/
def extension (page : Page) (url : Text) : Text :=
  QueryString.extension url page.parameters

/-- The page of a number and a size, where both are known. -/
def ofOptions? (number size : Option UInt64) : Option Page :=
  match number, size with
  | some number, some size => some ⟨number, size⟩
  | _, _ => none

end Page

/-! ## Parameters that are numbers -/

namespace Params

/-- The value of the last parameter of a name. -/
def last? (params : List (Text × Text)) (key : Text) : Option Text :=
  (params.reverse.find? fun param => param.1 = key).map Prod.snd

/-- The value of the last parameter of a name, where it is not empty. -/
def lastText? (params : List (Text × Text)) (key : Text) : Option Text :=
  (last? params key).filter fun value => !value.isEmpty

/-- The number that the last parameter of a name gives, if there is such a parameter. -/
def number? (params : List (Text × Text)) (key : Text) :
    ExceptT Failure Traced (Option UInt64) := do
  match last? params key with
  | none => return none
  | some raw =>
    match Text.readCount? (Text.trim raw) with
    | some n => return some n
    | none =>
      Traced.record (.numberRejected key raw)
      throw (.invalidNumber key raw)

end Params

/-- The page that parameters ask for, where they give both its number and its size. -/
def Page.ofParams (settings : Settings) (params : List (Text × Text)) :
    ExceptT Failure Traced (Option Page) := do
  let number ← Params.number? params settings.pageKey
  let size ← Params.number? params settings.pageSizeKey
  return Page.ofOptions? number size

end FilterQuery
