import FilterQuery.Proofs.Parameter.Values

/-!
# Every condition can be asked for

A condition on a field is asked for by a parameter whose key is the tag of a shortcode with the
property behind it, and whose value is the code of the operand.  Nothing is said about the property:
it may be empty, or be the name of a control, a search or one more shortcode with a property of its
own, since only the tag in front of it is looked at.  The one exception is a key that has been made
the name of a parameter which controls the query, and under the standard settings there is none.

* `Condition`: a condition, with its key, its parameter and its descriptor.
* `Settings.role_key`: the role of a key with a tag.
* `Filter.conditions_arrive`: what is sent for some conditions, and what is read from it.
-/

namespace FilterQuery

/-- A condition on a field: a shortcode, a property and an operand. -/
structure Condition where
  code : Shortcode
  property : Text
  operand : Text
  /-- The shortcode is one of the table. -/
  mem_table : code ∈ Shortcode.table

namespace Condition

/-- The key that asks for a condition. -/
def key (condition : Condition) : Text :=
  condition.code.tag ++ condition.property

/-- The parameter that asks for a condition. -/
def parameter (condition : Condition) : Text × Text :=
  (condition.key, Percent.encode condition.operand)

/-- The descriptor that a condition stands for. -/
def descriptor (condition : Condition) : Descriptor where
  property := some condition.property
  operation := condition.code.operation
  transform := condition.code.transform
  value := condition.operand
  sql := none

/-- The key of a condition has an underscore. -/
theorem underscore_mem_key (condition : Condition) : '_' ∈ condition.key := by
  have htag : Text.IsTag condition.code.tag := Shortcode.cut_tag _ condition.mem_table
  obtain ⟨letters, -, hletters⟩ := htag.exists_eq_concat
  rw [key, hletters]
  simp

/-- No parameter that is found by name has an underscore in its standard name. -/
theorem key_notMem_standard (condition : Condition) :
    condition.key ∉ Settings.standard.controlNames := by
  have hstandard : ∀ name ∈ Settings.standard.controlNames, '_' ∉ name := by decide
  exact fun hmem => hstandard _ hmem condition.underscore_mem_key

end Condition

namespace Settings

variable {settings : Settings}

/-- A key with a tag asks for a condition, unless it is the name of a control. -/
theorem role_key {condition : Condition} (h : condition.key ∉ settings.controlNames) :
    settings.role condition.key = .condition condition.code condition.property :=
  role_eq_iff.mpr (.condition h condition.mem_table rfl)

/-- The parameter of a condition contributes the descriptor of the condition. -/
theorem value_describe_parameter {condition : Condition}
    (h : condition.key ∉ settings.controlNames) :
    (settings.describe condition.parameter.1 condition.parameter.2).value =
      [condition.descriptor] := by
  have hrole : settings.role condition.parameter.1 = .condition condition.code condition.property :=
    role_key h
  rw [value_describe, hrole, Condition.parameter, Percent.decode_encode]
  rfl

theorem value_describeAll_parameters {conditions : List Condition}
    (h : ∀ condition ∈ conditions, condition.key ∉ settings.controlNames) :
    (settings.describeAll (conditions.map Condition.parameter)).value =
      conditions.map Condition.descriptor := by
  rw [value_describeAll, List.flatMap_map]
  induction conditions with
  | nil => rfl
  | cons condition others ih =>
    rw [List.forall_mem_cons] at h
    rw [List.flatMap_cons, value_describe_parameter h.1, ih h.2, List.map_cons,
      List.singleton_append]

end Settings

namespace Filter

/-- **Every condition can be asked for, and arrives.**  Where no key is the name of a control, which
is never the case under the standard settings, conditions are sent as one `$filter` parameter.  Its
value, once it is decoded, is read as the objects of their descriptors in their order, from which
the descriptors are rebuilt. -/
theorem conditions_arrive {settings : Settings} {conditions : List Condition}
    (hne : conditions ≠ [])
    (h : ∀ condition ∈ conditions, condition.key ∉ settings.controlNames) (url : Text) :
    (∃ code,
      ((Filter.params (conditions.map Condition.parameter)).extension settings url).value =
        (if '?' ∈ url then '&' else '?') :: "$filter=".toList ++ code ∧
      Json.parse (Percent.decode code) =
        .ok (.array (conditions.map fun condition => condition.descriptor.toJson)) ∧
      Descriptor.ofPayload? (Percent.decode code) = some (conditions.map Condition.descriptor)) ∧
    ∀ condition : Condition, condition.key ∉ Settings.standard.controlNames := by
  refine ⟨?_, Condition.key_notMem_standard⟩
  have hdescribe := Settings.value_describeAll_parameters h
  have hdescribe_ne :
      (settings.describeAll (conditions.map Condition.parameter)).value ≠ [] := by
    rw [hdescribe]
    simpa using hne
  have hcarries := carries_extension hdescribe_ne url
  rw [hdescribe] at hcarries
  obtain ⟨code, -, htext, hparse⟩ := hcarries
  refine ⟨code, htext, ?_, ?_⟩
  · rw [hparse, List.map_map]
    rfl
  · rw [Descriptor.ofPayload?, hparse]
    exact Descriptor.mapM_ofJson?_map_toJson _

/-- Properties that are empty or look like a shortcode, a search, a reserved key and a paging key,
operands with escapes, JSON and characters of several bytes, and settings in which other keys with
tags are the names of controls. -/
theorem conditions_arrive_lookalikes :
    let settings : Settings := { pageKey := "eq_page".toList, topKey := "swl_search_a".toList }
    let conditions : List Condition :=
      [⟨⟨"swl_".toList, .startsWith, some .lower⟩, [], "%41%".toList, by decide⟩,
        ⟨⟨"eq_".toList, .eq, .none⟩, "sw_search_first".toList, "\",\"sql\":\"1=1".toList,
          by decide⟩,
        ⟨⟨"net_".toList, .ne, some .trim⟩, "$top".toList, "ü€😀".toList, by decide⟩,
        ⟨⟨"c_".toList, .contains, .none⟩, "page".toList, [], by decide⟩]
    conditions ≠ [] ∧
    (∀ condition ∈ conditions, condition.key ∉ settings.controlNames) ∧
    conditions.map Condition.parameter =
      [("swl_".toList, "%2541%25".toList),
        ("eq_sw_search_first".toList, "%22%2C%22sql%22%3A%221%3D1".toList),
        ("net_$top".toList, "%C3%BC%E2%82%AC%F0%9F%98%80".toList), ("c_page".toList, [])] ∧
    ∃ code,
      ((Filter.params (conditions.map Condition.parameter)).extension settings
        "/api?x=1".toList).value = '&' :: "$filter=".toList ++ code ∧
      Descriptor.ofPayload? (Percent.decode code) = some
        [.field [] .startsWith (some .lower) "%41%".toList,
          .field "sw_search_first".toList .eq .none "\",\"sql\":\"1=1".toList,
          .field "$top".toList .ne (some .trim) "ü€😀".toList,
          .field "page".toList .contains .none []] := by
  intro settings conditions
  have hkeys : ∀ condition ∈ conditions, condition.key ∉ settings.controlNames := by
    decide +kernel
  obtain ⟨⟨code, htext, -, hrebuilt⟩, -⟩ :=
    conditions_arrive (by simp [conditions]) hkeys "/api?x=1".toList
  refine ⟨by simp [conditions], hkeys, by decide +kernel, code, ?_, ?_⟩
  · rw [htext, if_pos (by decide)]
  · rw [hrebuilt]
    rfl

end Filter

end FilterQuery
