import FilterQuery.Descriptor.Payload
import FilterQuery.Json.Reader
import FilterQuery.Parameter
import FilterQuery.QueryString

/-!
# Filters

A filter is given as parameters, as an expression in the language of the receiver, or not at all.
It becomes at most one parameter of the query: `$filter` with the payload of the descriptors, or
`$where` with the expression.  Where nothing is asked for, nothing is sent.

A filter may also be made from a JSON value.  A string is an expression.  The members of an object
are parameters: words and numbers stand for their texts, an array for the texts of its items with
commas between them.  What is `null` or an object has no text and is left out, at every depth.

* `Filter.ofExpression`, `Filter.ofJson`: filters from other values.
* `Filter.parameters`: the parameter that a filter becomes.
* `Filter.extension`: what a filter appends to a URL.
-/

namespace FilterQuery

/-- What a query asks for. -/
inductive Filter where
  /-- Nothing in particular. -/
  | none
  /-- What parameters say. -/
  | params (pairs : List (Text × Text))
  /-- What an expression says. -/
  | expression (text : Text)
  deriving DecidableEq, Repr

namespace Filter

/-- Whether there is no filter. -/
def isNone : Filter → Bool
  | .none => true
  | _ => false

/-- The filter of an expression.  The empty one is no filter. -/
def ofExpression (text : Text) : Filter :=
  if text.isEmpty then .none else .expression text

/-! ## Filters from JSON -/

mutual

/-- The text that a JSON value stands for under a key, if it has one. -/
def valueText (key : Text) : Json → Traced (Option Text)
  | .string text => return some text
  | .bool true => return some "true".toList
  | .bool false => return some "false".toList
  | .number value => return some value.text
  | .array items => do
    let texts ← itemTexts key items
    return some (List.intercalate [','] texts)
  | .null => do
    Traced.record (.nullSkipped key)
    return Option.none
  | .object _ => do
    Traced.record (.nestedSkipped key)
    return Option.none

/-- The texts of those JSON values that have one. -/
def itemTexts (key : Text) : List Json → Traced (List Text)
  | [] => return []
  | item :: others => do
    let text ← valueText key item
    let texts ← itemTexts key others
    return text.toList ++ texts

end

/-- The parameters of the members of an object. -/
def memberParams : List (Text × Json) → Traced (List (Text × Text))
  | [] => return []
  | (key, value) :: others => do
    let text ← valueText key value
    let more ← memberParams others
    return (text.toList.map fun text => (key, text)) ++ more

/-- The filter of a JSON value. -/
def ofJson : Json → Traced Filter
  | .object members => do
    let pairs ← memberParams members
    return .params pairs
  | .string text => return ofExpression text
  | .null => return .none
  | .bool _ => do
    Traced.record (.shapeIgnored .bool)
    return .none
  | .number _ => do
    Traced.record (.shapeIgnored .number)
    return .none
  | .array _ => do
    Traced.record (.shapeIgnored .array)
    return .none

/-! ## What is sent -/

/-- The parameter that a filter becomes, if it asks for anything. -/
def parameters (settings : Settings) : Filter → Traced (List (Text × Text))
  | .none => return []
  | .expression text => return if text.isEmpty then [] else [("$where".toList, text)]
  | .params pairs => do
    let descriptors ← settings.describeAll pairs
    return if descriptors.isEmpty then [] else [("$filter".toList, payload descriptors)]

/-- What a filter appends to a URL. -/
def extension (settings : Settings) (url : Text) (filter : Filter) : Traced Text := do
  let parameters ← filter.parameters settings
  return QueryString.extension url parameters

/-- What the filter of a JSON value appends to a URL under the standard settings. -/
def jsonExtension (url : Text) (value : Json) : Traced Text := do
  let filter ← ofJson value
  filter.extension Settings.standard url

end Filter

end FilterQuery
