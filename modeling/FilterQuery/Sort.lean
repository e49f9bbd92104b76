import FilterQuery.QueryString
import FilterQuery.Text.LetterCase

/-!
# Sorting

The rows are sorted by a property, or by several in turn.  The path of a property is sent with
slashes for dots and with its first letter in upper case.  One `$orderby` parameter holds the whole
order: a property to sort by in descending order is added to the order that is open already, by
writing the code of more text behind the value of that parameter.
-/

namespace FilterQuery.Sort

/-- The path of a property as it is sent. -/
def normalize (property : Text) : Text :=
  Text.capitalize (property.map fun c => if c = '.' then '/' else c)

/-- The clause that sorts by a property from the last to the first. -/
def descending (property : Text) : Text :=
  normalize property ++ " desc".toList

/-- What the name of an order is. -/
def name : Text := "$orderby".toList

/-- What sorting by a property appends to a URL. -/
def ascendingExtension (url property : Text) : Text :=
  QueryString.extension url [(name, normalize property)]

/-- What sorting by a property from the last to the first appends to a URL, where `isOpen` says
whether there is an order to add to. -/
def descendingExtension (url : Text) (isOpen : Bool) (property : Text) : Text :=
  if isOpen then
    Percent.encode (", ".toList ++ descending property)
  else
    QueryString.extension url [(name, descending property)]

end FilterQuery.Sort
