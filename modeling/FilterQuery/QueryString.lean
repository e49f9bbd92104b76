import FilterQuery.Percent

/-!
# Query strings

The query string of a URL is a list of parameters, each a name and a value.  It is written with `=`
between a name and its value and with `&` between two parameters, and values are percent-encoded.
What is appended to a URL is joined to it by `?`, or by `&` where the URL has a query string
already.

* `QueryString.write`, `QueryString.read`: the text of parameters, and the parameters of a text.
* `QueryString.extension`: what parameters append to a URL.
-/

namespace FilterQuery.QueryString

/-- The character between a URL and a parameter that is appended to it. -/
def joinMark (url : Text) : Char :=
  if '?' ∈ url then '&' else '?'

/-- The text of one parameter. -/
def writeOne (parameter : Text × Text) : Text :=
  parameter.1 ++ '=' :: Percent.encode parameter.2

/-- The text of parameters. -/
def write (parameters : List (Text × Text)) : Text :=
  List.intercalate ['&'] (parameters.map writeOne)

/-- What parameters append to a URL.  No parameters append nothing, not even a mark. -/
def extension (url : Text) (parameters : List (Text × Text)) : Text :=
  if parameters.isEmpty then [] else joinMark url :: write parameters

/-- The parameter of a text.  Without `=` the value is empty. -/
def readOne (text : Text) : Text × Text :=
  let halves := Text.cut '=' text
  (halves.1, Percent.decode (halves.2.getD []))

/-- The parameters of a text.  The empty text has none. -/
def read (text : Text) : List (Text × Text) :=
  if text.isEmpty then [] else (Text.pieces '&' text).map readOne

end FilterQuery.QueryString
