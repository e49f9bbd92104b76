import FilterQuery.Proofs.Filter.Extension
import FilterQuery.Proofs.Parameter.Roles
import Mathlib.Data.List.Forall2

/-!
# Values stay values

The key of a parameter decides what becomes of it; its value is only handed on.  Two lists of
parameters with the same keys therefore make descriptors that differ in their values and in nothing
else, whatever stands in these values: a quote, a backslash, an ampersand or a piece of JSON is text
for the receiver as it was text for the sender.

* `Role.operand`: the value of the descriptors of a parameter.
* `Descriptor.SameButValue`, `Json.SameBut`: descriptors and objects that differ in nothing else.
* `Settings.forall₂_describeAll`: descriptors of parameters with the same keys.
* `Settings.values_stay_values`: the same once they have been sent and read.
-/

namespace FilterQuery

/-- Two descriptors differ at most in their values. -/
structure Descriptor.SameButValue (first second : Descriptor) : Prop where
  property : first.property = second.property
  operation : first.operation = second.operation
  transform : first.transform = second.transform
  sql : first.sql = second.sql

/-- Two objects have the same keys in the same order, and differ at most in the values of the key
`name`. -/
def Json.SameBut (name : Text) : Json → Json → Prop
  | .object members, .object others =>
    List.Forall₂ (fun member other => member.1 = other.1 ∧ (member.1 ≠ name → member.2 = other.2))
      members others
  | _, _ => False

theorem Descriptor.SameButValue.toJson {first second : Descriptor} (h : first.SameButValue second) :
    Json.SameBut "value".toList first.toJson second.toJson := by
  have hsame : ∀ {key : Text} {value other : Json}, value = other →
      key = key ∧ (key ≠ "value".toList → value = other) := fun h => ⟨rfl, fun _ => h⟩
  refine .cons (hsame ?_) (.cons (hsame ?_) (.cons (hsame ?_) (.cons ⟨rfl, ?_⟩
    (.cons (hsame ?_) .nil))))
  · rw [h.property]
  · rw [h.operation]
  · rw [h.transform]
  · exact fun hne => absurd rfl hne
  · rw [h.sql]

/-! ## One parameter -/

namespace Role

/-- The value of the descriptors of a parameter: a search goes without regard to case. -/
def operand (role : Role) (value : Text) : Text :=
  match role with
  | .search _ _ => Text.lowercase value
  | _ => value

theorem value_of_mem_descriptors {role : Role} {key value : Text} {descriptor : Descriptor}
    (h : descriptor ∈ role.descriptors key value) : descriptor.value = role.operand value := by
  cases role with
  | unnamed | control | reserved => simp [descriptors] at h
  | condition code property =>
    obtain rfl := List.mem_singleton.mp h
    rfl
  | equality =>
    obtain rfl := List.mem_singleton.mp h
    rfl
  | search mode fields =>
    rw [descriptors, SearchMode.expand] at h
    cases hwords : Text.words '_' fields with
    | nil => simp [hwords, SearchMode.group] at h
    | cons first others =>
      rw [hwords, SearchMode.group, List.mem_cons, List.mem_map] at h
      rcases h with rfl | ⟨field, -, rfl⟩
      · rfl
      · rfl

/-- The fragments of a search differ at most in what is searched for. -/
theorem forall₂_group (mode : SearchMode) (term term' : Text) (fields : List Text) :
    List.Forall₂ Descriptor.SameButValue (mode.group term fields) (mode.group term' fields) := by
  cases fields with
  | nil => exact .nil
  | cons first others =>
    refine .cons ⟨rfl, rfl, rfl, rfl⟩ ?_
    rw [List.forall₂_map_left_iff, List.forall₂_map_right_iff, List.forall₂_same]
    exact fun _ _ => ⟨rfl, rfl, rfl, rfl⟩

theorem forall₂_descriptors (role : Role) (key value value' : Text) :
    List.Forall₂ Descriptor.SameButValue (role.descriptors key value)
      (role.descriptors key value') := by
  cases role with
  | unnamed | control | reserved => exact .nil
  | condition | equality => exact .cons ⟨rfl, rfl, rfl, rfl⟩ .nil
  | search mode fields => exact forall₂_group mode _ _ _

end Role

/-! ## All parameters -/

namespace Settings

/-- **Parameters with the same keys make descriptors that differ at most in their values.** -/
theorem forall₂_describeAll (settings : Settings) {first second : List (Text × Text)}
    (h : first.map Prod.fst = second.map Prod.fst) :
    List.Forall₂ Descriptor.SameButValue (settings.describeAll first).value
      (settings.describeAll second).value := by
  rw [value_describeAll, value_describeAll]
  induction first generalizing second with
  | nil =>
    obtain rfl : second = [] := by simpa using h.symm
    exact .nil
  | cons param others ih =>
    obtain ⟨param', others', rfl⟩ : ∃ param' others', second = param' :: others' :=
      List.exists_cons_of_ne_nil (by rintro rfl; simp at h)
    rw [List.map_cons, List.map_cons, List.cons.injEq] at h
    obtain ⟨hkey, hothers⟩ := h
    rw [List.flatMap_cons, List.flatMap_cons, value_describe, value_describe, ← hkey]
    exact List.rel_append ((settings.role param.1).forall₂_descriptors _ _ _) (ih hothers)

/-- What parameters with the same keys append differs at most in the values that are read. -/
theorem carries_sameBut (settings : Settings) {first second : List (Text × Text)}
    (h : first.map Prod.fst = second.map Prod.fst) (url : Text) :
    (((Filter.params first).extension settings url).value = [] ∧
      ((Filter.params second).extension settings url).value = []) ∨
    ∃ items others,
      Filter.Carries url ((Filter.params first).extension settings url).value items ∧
      Filter.Carries url ((Filter.params second).extension settings url).value others ∧
      List.Forall₂ (Json.SameBut "value".toList) items others := by
  have hsame := settings.forall₂_describeAll h
  by_cases hfirst : (settings.describeAll first).value = []
  · have hsecond : (settings.describeAll second).value = [] := by
      rw [hfirst] at hsame
      exact List.forall₂_nil_left_iff.mp hsame
    exact Or.inl ⟨Filter.value_extension_eq_nil_iff.mpr hfirst,
      Filter.value_extension_eq_nil_iff.mpr hsecond⟩
  · have hsecond : (settings.describeAll second).value ≠ [] := by
      intro hnil
      rw [hnil] at hsame
      exact hfirst (List.forall₂_nil_right_iff.mp hsame)
    refine Or.inr ⟨_, _, Filter.carries_extension hfirst url,
      Filter.carries_extension hsecond url, ?_⟩
    rw [List.forall₂_map_left_iff, List.forall₂_map_right_iff]
    exact hsame.imp fun _ _ => Descriptor.SameButValue.toJson

/-- **A value is a value and nothing else.**  Under any settings, parameters with the same keys make
descriptors that agree one by one in everything but their values.  The descriptors of one parameter
have one value, the text that the parameter was given in its code, in lower case for a search.  What
is sent is a `$filter` parameter in both cases or nothing in both, and the objects that a receiver
reads from it differ at most under the key `value`. -/
theorem values_stay_values (settings : Settings) {first second : List (Text × Text)}
    (h : first.map Prod.fst = second.map Prod.fst) :
    List.Forall₂ Descriptor.SameButValue (settings.describeAll first).value
      (settings.describeAll second).value ∧
    (settings.describeAll first).value =
      first.flatMap (fun param => (settings.describe param.1 param.2).value) ∧
    (∀ param ∈ first, ∀ descriptor ∈ (settings.describe param.1 param.2).value,
      descriptor.value = (settings.role param.1).operand (Percent.decode param.2)) ∧
    ∀ url,
      (((Filter.params first).extension settings url).value = [] ∧
        ((Filter.params second).extension settings url).value = []) ∨
      ∃ items others,
        Filter.Carries url ((Filter.params first).extension settings url).value items ∧
        Filter.Carries url ((Filter.params second).extension settings url).value others ∧
        List.Forall₂ (Json.SameBut "value".toList) items others :=
  ⟨settings.forall₂_describeAll h, settings.value_describeAll first,
    fun _ _ _ => Role.value_of_mem_descriptors, settings.carries_sameBut h⟩

/-- Values made of JSON, marks of a URL, the mark of a bound value and damaged escapes, beside plain
ones. -/
theorem values_stay_values_markup :
    let keys := ["search_first_last".toList, "eq_name".toList, "page".toList, "status".toList]
    let first := keys.zip ["Smith".toList, "a".toList, "1".toList, "open".toList]
    let second := keys.zip
      ["%22%5D&$top=1".toList, "\",\"sql\":\"1=1".toList, "@0".toList, "\\%zz%FF".toList]
    first.map Prod.fst = second.map Prod.fst ∧
    List.Forall₂ Descriptor.SameButValue
      [.fragment .sql "First.ToLower().Contains(@0)".toList "smith".toList,
        .fragment .sqlUnion "Last.ToLower().Contains(@0)".toList "smith".toList,
        .field "name".toList .eq none "a".toList, .field "status".toList .eq none "open".toList]
      [.fragment .sql "First.ToLower().Contains(@0)".toList "\"]&$top=1".toList,
        .fragment .sqlUnion "Last.ToLower().Contains(@0)".toList "\"]&$top=1".toList,
        .field "name".toList .eq none "\",\"sql\":\"1=1".toList,
        .field "status".toList .eq none "\\%zz\uFFFD".toList] ∧
    ∃ items others,
      Filter.Carries "/api".toList ((Filter.params first).extension standard "/api".toList).value
        items ∧
      Filter.Carries "/api".toList ((Filter.params second).extension standard "/api".toList).value
        others ∧
      List.Forall₂ (Json.SameBut "value".toList) items others := by
  intro keys first second
  have hkeys : first.map Prod.fst = second.map Prod.fst := by decide
  obtain ⟨hsame, -, -, hsent⟩ := standard.values_stay_values hkeys
  have hfirst : (standard.describeAll first).value =
      [.fragment .sql "First.ToLower().Contains(@0)".toList "smith".toList,
        .fragment .sqlUnion "Last.ToLower().Contains(@0)".toList "smith".toList,
        .field "name".toList .eq none "a".toList,
        .field "status".toList .eq none "open".toList] := by
    decide +kernel
  have hsecond : (standard.describeAll second).value =
      [.fragment .sql "First.ToLower().Contains(@0)".toList "\"]&$top=1".toList,
        .fragment .sqlUnion "Last.ToLower().Contains(@0)".toList "\"]&$top=1".toList,
        .field "name".toList .eq none "\",\"sql\":\"1=1".toList,
        .field "status".toList .eq none "\\%zz\uFFFD".toList] := by
    decide +kernel
  refine ⟨hkeys, hfirst ▸ hsecond ▸ hsame, ?_⟩
  rcases hsent "/api".toList with ⟨hnil, -⟩ | hcarries
  · have hempty := Filter.value_extension_eq_nil_iff.mp hnil
    rw [hfirst] at hempty
    exact absurd hempty (by simp)
  · exact hcarries

end Settings

end FilterQuery
