import FilterQuery.Proofs.Filter.Members
import FilterQuery.Proofs.Text.Pieces
import Mathlib.Data.List.Forall2

/-!
# Arrays flatten, and what has no text vanishes

The text of an array is a join of the texts of its items, and an item that is an array brings a join
of its own.  Since joins compose, an array of arrays has the text of its leaves.  An array of which
nothing is left still has a text, the empty one, so it keeps its place between the commas where
`null` or an object leaves no trace.

* `value_valueText_leaves`: the text of a filled array.
* `value_valueText_pruned`: what has no text may as well not be there.
* `objects_flatten`: the parameters of objects, and the values that give the same filter.
-/

namespace FilterQuery.Filter

/-! ## The text of an array -/

/-- Only the items that have a text count. -/
theorem filterMap_valueText_filter (key : Text) (items : List Json) :
    (items.filter Json.hasText).filterMap (fun item => (valueText key item).value) =
      items.filterMap fun item => (valueText key item).value := by
  rw [List.filterMap_filter]
  refine List.filterMap_congr fun item _ => ?_
  cases htext : item.hasText with
  | true => rw [if_pos rfl]
  | false => rw [if_neg Bool.false_ne_true, value_valueText_eq_none htext]

/-- **The text of a filled array** is the join of its leaves. -/
theorem value_valueText_leaves (key : Text) (value : Json) (htext : value.hasText = true)
    (hfilled : value.ArraysFilled) :
    (valueText key value).value = some (List.intercalate [','] value.leaves) := by
  induction value using Json.arrayInduction with
  | null | object => exact absurd htext Bool.false_ne_true
  | bool b => cases b <;> exact congrArg some (List.intercalate_singleton ..).symm
  | number | string => exact congrArg some (List.intercalate_singleton ..).symm
  | array items ih =>
    have hitems : items.filterMap (fun item => (valueText key item).value) =
        ((items.filter Json.hasText).map Json.leaves).map (List.intercalate [',']) := by
      rw [← filterMap_valueText_filter, List.map_map, ← List.filterMap_eq_map']
      refine List.filterMap_congr fun item hitem => ?_
      obtain ⟨hmem, htext⟩ := List.mem_filter.mp hitem
      exact ih item hmem htext (Json.arraysFilled_array_iff.mp hfilled item hmem).2
    have hgroups : ∀ group ∈ (items.filter Json.hasText).map Json.leaves, group ≠ [] := by
      intro group hgroup
      obtain ⟨item, hitem, rfl⟩ := List.mem_map.mp hgroup
      obtain ⟨hmem, htext⟩ := List.mem_filter.mp hitem
      obtain ⟨hitself, hinside⟩ := Json.arraysFilled_array_iff.mp hfilled item hmem
      exact item.leaves_ne_nil htext hinside hitself
    rw [value_valueText_array, hitems, Text.intercalate_map_intercalate hgroups,
      Json.flatten_map_leaves_filter]

/-- An array of which nothing is left has the empty text, and keeps its comma. -/
example : (valueText [] (.array [.array [.null], .bool true])).value = some ",true".toList := by
  decide

/-- **What has no text may as well not be there**: without it a value has the same text. -/
theorem value_valueText_pruned (key : Text) (value : Json) :
    (valueText key value.pruned).value = (valueText key value).value := by
  induction value using Json.arrayInduction with
  | null | bool | number | string | object => rfl
  | array items ih =>
    rw [Json.pruned_array, value_valueText_array, value_valueText_array, List.filterMap_map,
      ← filterMap_valueText_filter key items]
    refine congrArg (fun texts => some (List.intercalate [','] texts)) ?_
    exact List.filterMap_congr fun item hitem => ih item (List.mem_of_mem_filter hitem)

/-! ## Objects -/

/-- The parameters of an object are its members that have a text, one by one: the key is the same,
and where the arrays in the value are filled, the leaves of the value are joined. -/
theorem forall₂_memberParams (members : List (Text × Json)) :
    List.Forall₂ (fun pair member => pair.1 = member.1 ∧ (member.2.ArraysFilled →
        pair.2 = List.intercalate [','] member.2.leaves))
      (memberParams members).value (members.filter fun member => member.2.hasText) := by
  rw [value_memberParams]
  induction members with
  | nil => exact List.Forall₂.nil
  | cons member others ih =>
    rw [List.filterMap_cons]
    cases htext : member.2.hasText with
    | false =>
      rw [List.filter_cons_of_neg (by simp [htext]), value_valueText_eq_none htext]
      exact ih
    | true =>
      obtain ⟨text, hsome⟩ := exists_value_valueText member.1 htext
      rw [List.filter_cons_of_pos (by simp [htext]), hsome]
      refine List.Forall₂.cons ⟨rfl, fun hfilled => ?_⟩ ih
      exact Option.some.inj (hsome.symm.trans
        (value_valueText_leaves member.1 member.2 htext hfilled))

/-- Without the members that have no text, and without what has none in the others, an object has
the same parameters. -/
theorem value_memberParams_pruned (members : List (Text × Json)) :
    (memberParams ((members.filter fun member => member.2.hasText).map fun member =>
      (member.1, member.2.pruned))).value = (memberParams members).value := by
  rw [value_memberParams, value_memberParams, List.filterMap_map, List.filterMap_filter]
  refine List.filterMap_congr fun member _ => ?_
  cases htext : member.2.hasText with
  | true => rw [if_pos rfl, Function.comp_apply, value_valueText_pruned]
  | false => rw [if_neg Bool.false_ne_true, value_valueText_eq_none htext, Option.map_none]

/-- A value has the same filter without what has no text. -/
theorem value_ofJson_bare (value : Json) : (ofJson value.bare).value = (ofJson value).value := by
  cases value with
  | null | bool | number | string | array => rfl
  | object members =>
    rw [Json.bare, value_ofJson_object, value_ofJson_object, value_memberParams_pruned]

/-- **Arrays flatten, and what has no text vanishes.**  The filter of an object has one parameter
for each member that is neither `null` nor an object, in their order and under their keys; where
each array inside its value holds something with a text, the parameter is the join of the leaves.
Whatever the arrays hold, the filter and the extension of a URL stay the same when every `null` and
every object is taken out, and nothing without a text is left by that. -/
theorem objects_flatten :
    (∀ members, ∃ pairs, (ofJson (.object members)).value = .params pairs ∧
      List.Forall₂ (fun pair member => pair.1 = member.1 ∧ (member.2.ArraysFilled →
        pair.2 = List.intercalate [','] member.2.leaves))
        pairs (members.filter fun member => member.2.hasText)) ∧
    (∀ value, (ofJson value.bare).value = (ofJson value).value) ∧
    (∀ value url, (jsonExtension url value.bare).value = (jsonExtension url value).value) ∧
    ∀ members, ∃ left, (Json.object members).bare = .object left ∧
      ∀ member ∈ left, member.2.hasText = true ∧
        ∀ inner, Json.Inside inner member.2 → inner.hasText = true := by
  refine ⟨fun members => ⟨_, value_ofJson_object members, forall₂_memberParams members⟩,
    value_ofJson_bare, ?_, fun members => ⟨_, rfl, ?_⟩⟩
  · intro value url
    rw [value_jsonExtension, value_jsonExtension, value_ofJson_bare]
  · intro member hmem
    obtain ⟨origin, horigin, rfl⟩ := List.mem_map.mp hmem
    refine ⟨?_, fun _ => Json.hasText_of_inside_pruned origin.2⟩
    rw [Json.hasText_pruned]
    exact (List.mem_filter.mp horigin).2

/-- A `null`, an empty object, and an array with both of them, an array and the empty text in it. -/
theorem objects_flatten_ids :
    let inner := [Json.bool true, .string "x,y".toList, .null]
    let ids := Json.array [.number (.integer 1), .array inner, .object [], .string []]
    let object := Json.object
      [("n".toList, .null), ("ids".toList, ids), ("o".toList, .object [])]
    let rest := Json.object [("ids".toList, .array
      [.number (.integer 1), .array [.bool true, .string "x,y".toList], .string []])]
    ids.ArraysFilled ∧
    (ofJson object).value = .params [("ids".toList, "1,true,x,y,".toList)] ∧
    (ofJson rest).value = (ofJson object).value ∧
    (jsonExtension "/api".toList rest).value = (jsonExtension "/api".toList object).value := by
  intro inner ids object rest
  obtain ⟨hobject, hfilter, hextension, -⟩ := objects_flatten
  have hfilled : ids.ArraysFilled := by
    have hinner : (Json.array inner).ArraysFilled := by
      simp [inner, Json.arraysFilled_array_iff, Json.arraysFilled_of_forall_ne]
    have htext : ∃ item, item ∈ inner ∧ item.hasText = true := ⟨_, List.mem_cons_self, rfl⟩
    simp [ids, Json.arraysFilled_array_iff, Json.arraysFilled_of_forall_ne, hinner, htext]
  obtain ⟨pairs, hpairs, hread⟩ := hobject
    [("n".toList, .null), ("ids".toList, ids), ("o".toList, .object [])]
  obtain ⟨pair, _, ⟨hkey, htext⟩, hrest, rfl⟩ := List.forall₂_cons_right_iff.mp hread
  obtain rfl := List.forall₂_nil_right_iff.mp hrest
  refine ⟨hfilled, ?_, hfilter object, hextension object _⟩
  have hpair : pair = ("ids".toList, "1,true,x,y,".toList) := Prod.ext hkey (htext hfilled)
  exact hpairs.trans (by rw [hpair])

end FilterQuery.Filter
