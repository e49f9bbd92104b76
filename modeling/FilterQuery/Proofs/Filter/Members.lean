import FilterQuery.Filter
import FilterQuery.Proofs.Json.Arrays

/-!
# The parameters of a JSON object

A member of an object is a parameter exactly when its value has a text: it is neither `null` nor an
object.  An array has the texts of its items that have one.  What is recorded on the way is of no
account here, and neither is the key, which is only needed for the record.

* `Filter.value_memberParams`: the parameters of the members of an object.
* `Filter.value_valueText_array`: the text of an array.
-/

namespace FilterQuery.Filter

variable {key : Text} {value : Json}

theorem isSome_value_valueText (key : Text) (value : Json) :
    (valueText key value).value.isSome = value.hasText := by
  cases value with
  | bool b => cases b <;> rfl
  | null | number | string | array | object => rfl

theorem value_valueText_eq_none (h : value.hasText = false) :
    (valueText key value).value = Option.none := by
  rw [← Option.not_isSome_iff_eq_none, isSome_value_valueText, h]
  exact Bool.false_ne_true

theorem exists_value_valueText (key : Text) (h : value.hasText = true) :
    ∃ text, (valueText key value).value = some text :=
  Option.isSome_iff_exists.mp ((isSome_value_valueText key value).trans h)

theorem value_itemTexts (key : Text) (items : List Json) :
    (itemTexts key items).value = items.filterMap fun item => (valueText key item).value := by
  induction items with
  | nil => rfl
  | cons item others ih =>
    rw [itemTexts, Traced.value_bind, Traced.value_bind, Traced.value_pure, ih,
      List.filterMap_cons]
    cases (valueText key item).value with
    | none => rfl
    | some text => rfl

/-- The text of an array is made of the texts of those items that have one. -/
theorem value_valueText_array (key : Text) (items : List Json) :
    (valueText key (.array items)).value =
      some (List.intercalate [','] (items.filterMap fun item => (valueText key item).value)) := by
  rw [valueText, Traced.value_bind, Traced.value_pure, value_itemTexts]

/-- **The parameters of an object** are its members that have a text, in their order. -/
theorem value_memberParams (members : List (Text × Json)) :
    (memberParams members).value = members.filterMap fun member =>
      (valueText member.1 member.2).value.map fun text => (member.1, text) := by
  induction members with
  | nil => rfl
  | cons member others ih =>
    rw [memberParams, Traced.value_bind, Traced.value_bind, Traced.value_pure, ih,
      List.filterMap_cons]
    cases (valueText member.1 member.2).value with
    | none => rfl
    | some text => rfl

theorem value_ofJson_object (members : List (Text × Json)) :
    (ofJson (.object members)).value = .params (memberParams members).value := rfl

theorem value_jsonExtension (url : Text) (value : Json) :
    (jsonExtension url value).value =
      ((ofJson value).value.extension Settings.standard url).value := rfl

end FilterQuery.Filter
