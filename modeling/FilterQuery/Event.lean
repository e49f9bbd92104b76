import FilterQuery.Descriptor.Basic
import FilterQuery.Search
import FilterQuery.Text.Decimal

/-!
# Events

What happens to a parameter on the way into a query is recorded as an event: which rule took it, or
why it was left out.  An event is a value like any other.  Only here is it said how urgent an event
is and in which words it is told.
-/

namespace FilterQuery

/-- How urgent an event is. -/
inductive Level where
  | trace
  | debug
  | warn
  deriving DecidableEq, Repr

/-- The shape of a JSON value that makes no filter. -/
inductive Shape where
  | bool
  | number
  | array
  deriving DecidableEq, Repr

/-- The name of a shape. -/
def Shape.name : Shape → Text
  | .bool => "bool".toList
  | .number => "number".toList
  | .array => "array".toList

/-- Something that happened on the way into a query. -/
inductive Event where
  /-- A parameter without a name was left out. -/
  | unnamedSkipped
  /-- A parameter that is found by name was left out of the filter. -/
  | controlSkipped (key : Text)
  /-- A reserved or paging parameter was left out. -/
  | reservedSkipped (key : Text)
  /-- A parameter became a condition by its shortcode. -/
  | shortcodeResolved (key : Text) (operation : Operation)
  /-- A parameter became the condition that a property equals a value. -/
  | equalityAssumed (key : Text)
  /-- A search became so many fragments. -/
  | searchExpanded (mode : SearchMode) (fields : Text) (count : Nat)
  /-- A member of a JSON object was left out because it is `null`. -/
  | nullSkipped (key : Text)
  /-- A member of a JSON object was left out because it is an object itself. -/
  | nestedSkipped (key : Text)
  /-- A JSON value makes no filter. -/
  | shapeIgnored (shape : Shape)
  /-- A parameter should be a number and is not. -/
  | numberRejected (key value : Text)
  /-- A query has been built from parameters. -/
  | queryBuilt (url : Text)
  deriving DecidableEq, Repr

namespace Event

/-- How urgent an event is. -/
def level : Event → Level
  | .shortcodeResolved .. | .equalityAssumed .. => .trace
  | .nestedSkipped .. | .shapeIgnored .. | .numberRejected .. => .warn
  | _ => .debug

/-- The words in which an event is told. -/
def message : Event → Text
  | .unnamedSkipped => "Skipping parameter with empty key".toList
  | .controlSkipped .. => "Skipping ordering or paging control".toList
  | .reservedSkipped .. => "Skipping reserved or paging parameter".toList
  | .shortcodeResolved .. => "Resolved shortcode".toList
  | .equalityAssumed .. => "No shortcode, using implicit equality".toList
  | .searchExpanded .. => "Expanded search key".toList
  | .nullSkipped .. => "Skipping null parameter".toList
  | .nestedSkipped .. => "Skipping nested object parameter".toList
  | .shapeIgnored .. => "Unsupported filter shape, ignoring".toList
  | .numberRejected .. => "Paging parameter is not a number".toList
  | .queryBuilt .. => "Built query".toList

/-- The details of an event, each with its name. -/
def details : Event → List (Text × Text)
  | .unnamedSkipped => []
  | .controlSkipped key | .reservedSkipped key | .equalityAssumed key | .nullSkipped key
  | .nestedSkipped key => [("key".toList, key)]
  | .shortcodeResolved key operation =>
    [("key".toList, key), ("operation".toList, operation.name)]
  | .searchExpanded mode fields count =>
    [("mode".toList, mode.name), ("fields".toList, fields), ("expanded".toList, Text.ofNat count)]
  | .shapeIgnored shape => [("shape".toList, shape.name)]
  | .numberRejected key value => [("key".toList, key), ("value".toList, value)]
  | .queryBuilt url => [("url".toList, url)]

end Event

end FilterQuery
