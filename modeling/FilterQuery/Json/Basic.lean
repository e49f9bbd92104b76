import FilterQuery.Json.Number

/-!
# JSON values

The members of an object keep the order in which their keys first appear.  A key that appears
again replaces the value and keeps the place.
-/

namespace FilterQuery

/-- A JSON value. -/
inductive Json where
  | null
  | bool (value : Bool)
  | number (value : Json.Number)
  | string (text : Text)
  | array (items : List Json)
  | object (members : List (Text × Json))

namespace Json

/-- Induction on a value, with a hypothesis for everything that stands in an array or an object. -/
@[elab_as_elim]
theorem induct {motive : Json → Prop} (null : motive .null) (bool : ∀ value, motive (.bool value))
    (number : ∀ value, motive (.number value)) (string : ∀ text, motive (.string text))
    (array : ∀ items, (∀ item ∈ items, motive item) → motive (.array items))
    (object : ∀ members, (∀ member ∈ members, motive member.2) → motive (.object members)) :
    ∀ value, motive value
  | .null => null
  | .bool value => bool value
  | .number value => number value
  | .string text => string text
  | .array items => array items fun item _ => induct null bool number string array object item
  | .object members =>
    object members fun member _ => induct null bool number string array object member.2
decreasing_by
  · decreasing_trivial
  · have hsize := List.sizeOf_lt_of_mem ‹member ∈ members›
    obtain ⟨key, value⟩ := member
    simp only [Json.object.sizeOf_spec, Prod.mk.sizeOf_spec] at hsize ⊢
    omega

/-- The members of an object after one more has been read. -/
def putMember (key : Text) (value : Json) : List (Text × Json) → List (Text × Json)
  | [] => [(key, value)]
  | member :: others =>
    if member.1 = key then
      (key, value) :: others
    else
      member :: putMember key value others

end Json

end FilterQuery
