import FilterQuery.Json.Printer

/-!
# Arrays inside arrays

An array is a tree of values: its items may be arrays again, at any depth.  What it holds is read
off its leaves, the words and numbers from left to right.  A value that is `null` or an object has
no text, and an array is bare when there is no such value in it.

* `hasText`: whether a value has a text.
* `arrayInduction`: induction on a value through the items of its arrays.
* `Inside`: being an item of an array, or of an array in it.
* `leaves`: the texts of the scalars of an array.
* `ArraysFilled`: each array inside an array holds something with a text.
* `bare`: a value without what has no text, `hasText_of_inside_pruned` that none of it is left.
-/

namespace FilterQuery.Json

/-- Whether a value is neither `null` nor an object. -/
def hasText : Json → Bool
  | .null | .object _ => false
  | _ => true

variable {value inner item : Json} {items : List Json}

theorem hasText_eq_false_iff : value.hasText = false ↔
    value = .null ∨ ∃ members, value = .object members := by
  cases value <;> simp [hasText]

/-- Induction on a value, with a hypothesis for every item of an array. -/
@[elab_as_elim]
theorem arrayInduction {motive : Json → Prop} (null : motive .null)
    (bool : ∀ value, motive (.bool value)) (number : ∀ value, motive (.number value))
    (string : ∀ text, motive (.string text)) (object : ∀ members, motive (.object members))
    (array : ∀ items, (∀ item ∈ items, motive item) → motive (.array items)) :
    ∀ value, motive value :=
  induct null bool number string array fun members _ => object members

/-- A value is an item of an array, or stands inside one of its items. -/
inductive Inside (inner : Json) : Json → Prop
  | item {items : List Json} (hmem : inner ∈ items) : Inside inner (.array items)
  | deeper {item : Json} {items : List Json} (hmem : item ∈ items) (h : Inside inner item) :
    Inside inner (.array items)

/-- Only arrays have something inside. -/
theorem Inside.exists_eq_array (h : Inside inner value) : ∃ items, value = .array items := by
  cases h with
  | item => exact ⟨_, rfl⟩
  | deeper => exact ⟨_, rfl⟩

theorem inside_array_iff :
    Inside inner (.array items) ↔ ∃ item ∈ items, inner = item ∨ Inside inner item := by
  constructor
  · intro h
    cases h with
    | item hmem => exact ⟨inner, hmem, Or.inl rfl⟩
    | deeper hmem h => exact ⟨_, hmem, Or.inr h⟩
  · rintro ⟨item, hmem, rfl | h⟩
    · exact Inside.item hmem
    · exact Inside.deeper hmem h

/-! ## Leaves -/

mutual

/-- The texts of the scalars of a value, from left to right.  What is `null` or an object has
none. -/
def leaves : Json → List Text
  | .null | .object _ => []
  | .bool value => [render (.bool value)]
  | .number value => [render (.number value)]
  | .string text => [text]
  | .array items => itemLeaves items

/-- The leaves of values, one value after another. -/
def itemLeaves : List Json → List Text
  | [] => []
  | item :: others => leaves item ++ itemLeaves others

end

theorem itemLeaves_eq_flatMap (items : List Json) : itemLeaves items = items.flatMap leaves := by
  induction items with
  | nil => rfl
  | cons item others ih => rw [itemLeaves, ih, List.flatMap_cons]

theorem leaves_array (items : List Json) : leaves (.array items) = items.flatMap leaves := by
  rw [leaves, itemLeaves_eq_flatMap]

theorem leaves_of_hasText_eq_false (h : value.hasText = false) : value.leaves = [] := by
  rcases hasText_eq_false_iff.mp h with rfl | ⟨members, rfl⟩ <;> rfl

/-- The leaves of an array come from its items that have a text. -/
theorem flatten_map_leaves_filter (items : List Json) :
    ((items.filter hasText).map leaves).flatten = leaves (.array items) := by
  rw [leaves_array]
  induction items with
  | nil => rfl
  | cons item others ih =>
    rw [List.flatMap_cons, ← ih]
    cases h : item.hasText with
    | true => rw [List.filter_cons_of_pos h, List.map_cons, List.flatten_cons]
    | false =>
      rw [List.filter_cons_of_neg (by simp [h]), leaves_of_hasText_eq_false h, List.nil_append]

/-- Each array inside a value holds something that has a text. -/
def ArraysFilled (value : Json) : Prop :=
  ∀ items, Inside (.array items) value → ∃ item ∈ items, item.hasText = true

theorem arraysFilled_array_iff : ArraysFilled (.array items) ↔ ∀ item ∈ items,
    (∀ others, item = .array others → ∃ other ∈ others, other.hasText = true) ∧
      ArraysFilled item := by
  constructor
  · intro h item hmem
    refine ⟨?_, fun others hinside => h others (Inside.deeper hmem hinside)⟩
    rintro others rfl
    exact h others (Inside.item hmem)
  · intro h others hinside
    obtain ⟨item, hmem, hitem | hitem⟩ := inside_array_iff.mp hinside
    · exact (h item hmem).1 others hitem.symm
    · exact (h item hmem).2 others hitem

/-- A value that is no array has no array inside. -/
theorem arraysFilled_of_forall_ne (h : ∀ items, value ≠ .array items) : ArraysFilled value := by
  intro others hinside
  obtain ⟨items, hitems⟩ := hinside.exists_eq_array
  exact absurd hitems (h items)

/-- A scalar is a leaf, and a filled array of filled arrays has one. -/
theorem leaves_ne_nil (value : Json) (htext : value.hasText = true) (hfilled : ArraysFilled value)
    (hself : ∀ items, value = .array items → ∃ item ∈ items, item.hasText = true) :
    value.leaves ≠ [] := by
  induction value using arrayInduction with
  | null | object => exact absurd htext Bool.false_ne_true
  | bool | number | string => exact List.cons_ne_nil _ _
  | array items ih =>
    obtain ⟨item, hmem, hitem⟩ := hself items rfl
    obtain ⟨hitself, hinside⟩ := arraysFilled_array_iff.mp hfilled item hmem
    rw [leaves_array, ne_eq, List.flatMap_eq_nil_iff]
    exact fun hnil => ih item hmem hitem hinside hitself (hnil item hmem)

/-! ## Values without what has no text -/

mutual

/-- A value without what has no text inside it. -/
def pruned : Json → Json
  | .null => .null
  | .bool value => .bool value
  | .number value => .number value
  | .string text => .string text
  | .object members => .object members
  | .array items => .array (prunedItems items)

/-- The values that have a text, each without what has none inside it. -/
def prunedItems : List Json → List Json
  | [] => []
  | item :: others => if item.hasText then pruned item :: prunedItems others else prunedItems others

end

theorem prunedItems_eq (items : List Json) :
    prunedItems items = (items.filter hasText).map pruned := by
  induction items with
  | nil => rfl
  | cons item others ih =>
    rw [prunedItems, ih]
    cases h : item.hasText with
    | true => rw [if_pos rfl, List.filter_cons_of_pos h, List.map_cons]
    | false => rw [if_neg Bool.false_ne_true, List.filter_cons_of_neg (by simp [h])]

theorem pruned_array (items : List Json) :
    pruned (.array items) = .array ((items.filter hasText).map pruned) := by
  rw [pruned, prunedItems_eq]

@[simp] theorem hasText_pruned (value : Json) : value.pruned.hasText = value.hasText := by
  cases value <;> rfl

/-- Nothing without a text is left inside. -/
theorem hasText_of_inside_pruned (value : Json) (h : Inside inner value.pruned) :
    inner.hasText = true := by
  induction value using arrayInduction with
  | null | bool | number | string | object =>
    obtain ⟨items, hitems⟩ := h.exists_eq_array
    exact Json.noConfusion hitems
  | array items ih =>
    rw [pruned_array, inside_array_iff] at h
    obtain ⟨_, hmem, h⟩ := h
    obtain ⟨item, hitem, rfl⟩ := List.mem_map.mp hmem
    obtain ⟨hitem, htext⟩ := List.mem_filter.mp hitem
    rcases h with rfl | h
    · rwa [hasText_pruned]
    · exact ih item hitem h

/-- A value without what has no text: neither in an array nor among the members of an object is a
`null` or an object left. -/
def bare : Json → Json
  | .object members =>
    .object ((members.filter fun member => member.2.hasText).map fun member =>
      (member.1, member.2.pruned))
  | value => value.pruned

end FilterQuery.Json
