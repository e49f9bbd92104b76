import FilterQuery.Json.Basic
import FilterQuery.Json.Quoted

/-!
# Writing JSON

A value is written without white space, the members of an object in their order.
-/

namespace FilterQuery.Json

mutual

/-- The text of a value. -/
def render : Json → Text
  | .null => "null".toList
  | .bool true => "true".toList
  | .bool false => "false".toList
  | .number value => value.text
  | .string text => Quoted.write text
  | .array items => '[' :: renderItems items ++ [']']
  | .object members => '\x7b' :: renderMembers members ++ ['\x7d']

/-- The texts of values, with commas between them. -/
def renderItems : List Json → Text
  | [] => []
  | [item] => render item
  | item :: others => render item ++ ',' :: renderItems others

/-- The texts of members, with commas between them. -/
def renderMembers : List (Text × Json) → Text
  | [] => []
  | [(key, value)] => Quoted.write key ++ ':' :: render value
  | (key, value) :: others =>
    Quoted.write key ++ ':' :: render value ++ ',' :: renderMembers others

end

end FilterQuery.Json
