import FilterQuery.Descriptor.Basic
import FilterQuery.Json.Printer

/-!
# The payload of a filter

The conditions of a filter are sent as one JSON array with an object for each.  All five members are
always there, in one order, and a part that is absent is `null`, so that nothing has to be guessed
by the receiver: an absent property and an empty one are told apart.

* `payload`: the text of a list of descriptors.
* `Descriptor.ofJson?`: the receiver's side, which rebuilds a descriptor from its object.
-/

namespace FilterQuery

namespace Descriptor

/-- A text that may be absent. -/
def optionalJson : Option Text → Json
  | some text => .string text
  | none => .null

/-- The names of the members of a descriptor, in their order. -/
def memberNames : List Text :=
  ["property".toList, "operation".toList, "transform".toList, "value".toList, "sql".toList]

/-- The object of a descriptor. -/
def toJson (descriptor : Descriptor) : Json :=
  .object
    [("property".toList, optionalJson descriptor.property),
      ("operation".toList, .string descriptor.operation.name),
      ("transform".toList, optionalJson (descriptor.transform.map Transform.name)),
      ("value".toList, .string descriptor.value),
      ("sql".toList, optionalJson descriptor.sql)]

/-- The text that a value holds, or none for `null`; other values are refused. -/
def ofOptionalJson? : Json → Option (Option Text)
  | .string text => some (some text)
  | .null => some none
  | _ => none

/-- The transform that a value names, or none for `null`; other values are refused. -/
def transformOfJson? : Json → Option (Option Transform)
  | .string name => (Transform.ofName? name).map some
  | .null => some none
  | _ => none

/-- The descriptor of an object that has exactly the five members in their order. -/
def ofJson? : Json → Option Descriptor
  | .object
      [(propertyKey, property), (operationKey, .string operation), (transformKey, transform),
        (valueKey, .string value), (sqlKey, sql)] =>
    if [propertyKey, operationKey, transformKey, valueKey, sqlKey] = memberNames then do
      let property ← ofOptionalJson? property
      let operation ← Operation.ofName? operation
      let transform ← transformOfJson? transform
      let sql ← ofOptionalJson? sql
      some ⟨property, operation, transform, value, sql⟩
    else
      none
  | _ => none

/-- What has been sent is what is rebuilt. -/
@[simp] theorem ofJson?_toJson (descriptor : Descriptor) :
    ofJson? descriptor.toJson = some descriptor := by
  obtain ⟨property, operation, transform, value, sql⟩ := descriptor
  cases property <;> cases transform <;> cases sql <;>
    simp [toJson, ofJson?, memberNames, optionalJson, ofOptionalJson?, transformOfJson?]

end Descriptor

/-- The text in which descriptors are sent. -/
def payload (descriptors : List Descriptor) : Text :=
  Json.render (.array (descriptors.map Descriptor.toJson))

end FilterQuery
