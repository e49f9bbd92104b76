import FilterQuery.Filter
import FilterQuery.Proofs.Descriptor.Payload
import FilterQuery.Proofs.QueryString.Reading

/-!
# The filter of parameters behind a URL

Parameters that make descriptors append one `$filter` parameter to a URL, and nothing else does.
Its value is a code, so it ends where the URL ends, and a receiver that decodes it and reads it as
JSON has the objects of the descriptors.

* `Filter.Carries`: a `$filter` parameter with certain objects in it.
* `Filter.carries_extension`: parameters append such a parameter, with their descriptors in it.
* `Filter.value_extension_eq_nil_iff`: they append nothing when they make no descriptors.
-/

namespace FilterQuery.Filter

variable {settings : Settings} {pairs : List (Text × Text)}

/-- What stands behind a URL is a mark and one `$filter` parameter, and its value, once it is
decoded, is a JSON array of these items. -/
def Carries (url text : Text) (items : List Json) : Prop :=
  ∃ code, Percent.IsCode code ∧
    text = QueryString.joinMark url :: "$filter=".toList ++ code ∧
    Json.parse (Percent.decode code) = .ok (.array items)

theorem value_extension (settings : Settings) (filter : Filter) (url : Text) :
    (filter.extension settings url).value =
      QueryString.extension url (filter.parameters settings).value := rfl

theorem value_parameters_expression (settings : Settings) (text : Text) :
    ((Filter.expression text).parameters settings).value =
      if text = [] then [] else [("$where".toList, text)] := by
  simp only [parameters, Traced.value_pure, List.isEmpty_iff]

theorem value_parameters_params (settings : Settings) (pairs : List (Text × Text)) :
    ((Filter.params pairs).parameters settings).value =
      if (settings.describeAll pairs).value = [] then []
      else [("$filter".toList, payload (settings.describeAll pairs).value)] := by
  simp only [parameters, Traced.value_bind, Traced.value_pure, List.isEmpty_iff]

theorem value_extension_params (settings : Settings) (pairs : List (Text × Text)) (url : Text) :
    ((Filter.params pairs).extension settings url).value =
      if (settings.describeAll pairs).value = [] then []
      else QueryString.joinMark url :: "$filter=".toList ++
        Percent.encode (payload (settings.describeAll pairs).value) := by
  rw [value_extension, value_parameters_params]
  split
  · rfl
  · rw [QueryString.extension_of_ne_nil (by simp)]
    simp [QueryString.write, QueryString.writeOne]

/-- Nothing is appended for parameters without descriptors. -/
theorem value_extension_eq_nil_iff {url : Text} :
    ((Filter.params pairs).extension settings url).value = [] ↔
      (settings.describeAll pairs).value = [] := by
  rw [value_extension_params]
  split
  case isTrue h => simp [h]
  case isFalse h => simp [h]

/-- **The descriptors of parameters arrive.** -/
theorem carries_extension (h : (settings.describeAll pairs).value ≠ []) (url : Text) :
    Carries url ((Filter.params pairs).extension settings url).value
      ((settings.describeAll pairs).value.map Descriptor.toJson) := by
  refine ⟨Percent.encode (payload (settings.describeAll pairs).value), Percent.isCode_encode _,
    ?_, ?_⟩
  · rw [value_extension_params, if_neg h]
  · rw [Percent.decode_encode]
    exact parse_payload _

end FilterQuery.Filter
