import FilterQuery.Proofs.QueryString.Reading
import FilterQuery.Query.Basic

/-!
# A query is a list of parameters

Although a query only ever appends text to a URL, its URL always is the endpoint with a list of
parameters appended, and a step is an operation on that list.  Almost every step puts its own
parameters at the end.  The exception is a descending sort while an order is open: it writes behind
what stands at the end of the URL, which is the value of the last parameter, *whatever its name*.

* `Step.added`: the parameters of a step, written out.
* `Step.effect`: what a step makes of a list of parameters.
* `Represents`: the URL of a query is an endpoint with these parameters.
* `Represents.apply`: every step keeps this up, with the effect of the step on the list.
-/

namespace FilterQuery

/-- The names under which a query sends parameters. -/
def Query.names : List Text :=
  ["$filter".toList, "$where".toList, "$orderby".toList, "$top".toList, "$skip".toList,
    "$count".toList]

theorem Query.isName_of_mem_names : ∀ name ∈ Query.names, QueryString.IsName name := by
  unfold QueryString.IsName
  decide

/-! ## Operations on parameters -/

/-- Parameters with more text behind the last value. -/
def extendLast (more : Text) : List (Text × Text) → List (Text × Text)
  | [] => []
  | [parameter] => [(parameter.1, parameter.2 ++ more)]
  | parameter :: next :: others => parameter :: extendLast more (next :: others)

@[simp] theorem extendLast_concat (more : Text) (front : List (Text × Text)) (name value : Text) :
    extendLast more (front ++ [(name, value)]) = front ++ [(name, value ++ more)] := by
  induction front with
  | nil => rfl
  | cons parameter rest ih =>
    cases rest with
    | nil => rfl
    | cons next others => exact congrArg (parameter :: ·) ih

theorem map_fst_extendLast (more : Text) (parameters : List (Text × Text)) :
    (extendLast more parameters).map Prod.fst = parameters.map Prod.fst := by
  rcases List.eq_nil_or_concat parameters with rfl | ⟨front, ⟨name, value⟩, rfl⟩
  · rfl
  · simp

/-- What a descending sort adds to an order. -/
def Sort.continuation (property : Text) : Text :=
  ", ".toList ++ Sort.normalize property ++ " desc".toList

namespace Step

/-- The parameters of a step, under the settings that are in force. -/
def added (settings : Settings) : Step → List (Text × Text)
  | .withSettings _ | .filter .none => []
  | .filter (.expression text) => if text = [] then [] else [("$where".toList, text)]
  | .filter (.params pairs) =>
    let descriptors := (settings.describeAll pairs).value
    if descriptors = [] then [] else [("$filter".toList, payload descriptors)]
  | .orderBy property => [("$orderby".toList, Sort.normalize property)]
  | .orderByDesc property => [("$orderby".toList, Sort.normalize property ++ " desc".toList)]
  | .top n => [("$top".toList, Text.ofNat n.toNat)]
  | .skip n => [("$skip".toList, Text.ofNat n.toNat)]
  | .paginate page =>
    (if 0 < page.offset then [("$skip".toList, Text.ofNat page.offset.toNat)] else []) ++
      [("$top".toList, Text.ofNat page.size.toNat), ("$count".toList, "true".toList)]

/-- What a step makes of the parameters that are there, where `isSorted` says whether an order is
open. -/
def effect (settings : Settings) (isSorted : Bool) (parameters : List (Text × Text)) :
    Step → List (Text × Text)
  | .orderByDesc property =>
    if isSorted then
      extendLast (Sort.continuation property) parameters
    else
      parameters ++ added settings (.orderByDesc property)
  | step => parameters ++ added settings step

theorem fst_mem_names_of_mem_added (settings : Settings) (step : Step) :
    ∀ parameter ∈ step.added settings, parameter.1 ∈ Query.names := by
  cases step with
  | withSettings => simp [added]
  | filter filter =>
    cases filter with
    | none => simp [added]
    | params pairs =>
      simp only [added]
      split <;> simp [Query.names]
    | expression text =>
      simp only [added]
      split <;> simp [Query.names]
  | orderBy | orderByDesc | top | skip => simp [added, Query.names]
  | paginate page =>
    simp only [added]
    split <;> simp [Query.names]

theorem value_parameters_filter (settings : Settings) (filter : Filter) :
    (filter.parameters settings).value = added settings (.filter filter) := by
  cases filter with
  | none => rfl
  | params pairs =>
    simp only [Filter.parameters, added, Traced.value_bind, Traced.value_pure, List.isEmpty_iff]
  | expression text => simp only [Filter.parameters, added, Traced.value_pure, List.isEmpty_iff]

end Step

/-! ## The parameters of a query -/

/-- The URL of a query is an endpoint with these parameters appended. -/
structure Represents (endpoint : Text) (query : Query) (parameters : List (Text × Text)) :
    Prop where
  url_eq : query.url = endpoint ++ QueryString.extension endpoint parameters
  /-- Only the names of `Query.names` are used. -/
  fst_mem : ∀ parameter ∈ parameters, parameter.1 ∈ Query.names
  /-- An order that is open has been sent. -/
  sorted : query.openOrder.isSome → "$orderby".toList ∈ parameters.map Prod.fst

namespace Represents

variable {endpoint : Text} {query next : Query} {parameters : List (Text × Text)}

theorem new (endpoint : Text) : Represents endpoint (Query.new endpoint) [] :=
  ⟨by simp [Query.new], by simp, by simp [Query.new]⟩

/-- What a step appends with a mark of its own is put behind the parameters that are there. -/
theorem append {added : List (Text × Text)} (h : Represents endpoint query parameters)
    (hurl : next.url = query.url ++ QueryString.extension query.url added)
    (hadded : ∀ parameter ∈ added, parameter.1 ∈ Query.names)
    (hopen : next.openOrder.isSome →
      query.openOrder.isSome ∨ "$orderby".toList ∈ added.map Prod.fst) :
    Represents endpoint next (parameters ++ added) where
  url_eq := by
    rw [hurl, h.url_eq, List.append_assoc, ← QueryString.extension_append]
  fst_mem parameter hp := by
    rcases List.mem_append.mp hp with hp | hp
    · exact h.fst_mem parameter hp
    · exact hadded parameter hp
  sorted hsome := by
    rw [List.map_append, List.mem_append]
    rcases hopen hsome with hq | hm
    · exact Or.inl (h.sorted hq)
    · exact Or.inr hm

/-- A descending sort while an order is open writes behind the last parameter, which is there
because the order has been sent. -/
theorem exists_concat_of_isSome_openOrder (h : Represents endpoint query parameters)
    (hopen : query.openOrder.isSome) :
    ∃ front name value, parameters = front ++ [(name, value)] := by
  rcases List.eq_nil_or_concat parameters with rfl | ⟨front, ⟨name, value⟩, rfl⟩
  · exact absurd (h.sorted hopen) (by simp)
  · exact ⟨front, name, value, List.concat_eq_append⟩

theorem extendLast {more : Text} (h : Represents endpoint query parameters)
    (hurl : next.url = query.url ++ Percent.encode more) (hopen : query.openOrder.isSome) :
    Represents endpoint next (extendLast more parameters) := by
  obtain ⟨front, name, value, rfl⟩ := h.exists_concat_of_isSome_openOrder hopen
  refine ⟨?_, ?_, fun _ => ?_⟩
  · rw [hurl, h.url_eq, extendLast_concat, QueryString.extension_concat_append, List.append_assoc]
  · intro parameter hp
    have hm := List.mem_map_of_mem (f := Prod.fst) hp
    rw [map_fst_extendLast] at hm
    obtain ⟨old, hold, hname⟩ := List.mem_map.mp hm
    rw [← hname]
    exact h.fst_mem old hold
  · rw [map_fst_extendLast]
    exact h.sorted hopen

/-- **Every step is an operation on the parameters of a query.** -/
theorem apply (h : Represents endpoint query parameters) (step : Step) :
    Represents endpoint (query.apply step).value
      (step.effect query.settings query.openOrder.isSome parameters) := by
  have hadded := Step.fst_mem_names_of_mem_added query.settings step
  cases step with
  | withSettings settings =>
    refine h.append ?_ hadded Or.inl
    simp [Query.apply, Query.withSettings, Step.added]
  | filter filter =>
    refine h.append ?_ hadded Or.inl
    rw [← Step.value_parameters_filter]
    rfl
  | orderBy property => exact h.append rfl hadded fun _ => Or.inr (by simp [Step.added])
  | orderByDesc property =>
    have hurl : (query.orderByDesc property).url =
        query.url ++ Sort.descendingExtension query.url query.openOrder.isSome property := rfl
    rw [Step.effect]
    cases hopen : query.openOrder.isSome with
    | true =>
      rw [if_pos rfl]
      refine h.extendLast ?_ hopen
      rw [Query.apply, Traced.value_pure, hurl, hopen, Sort.descendingExtension, if_pos rfl,
        Sort.continuation, Sort.descending, List.append_assoc]
    | false =>
      rw [if_neg Bool.false_ne_true]
      refine h.append ?_ hadded fun _ => Or.inr (by simp [Step.added])
      rw [Query.apply, Traced.value_pure, hurl, hopen]
      rfl
  | top n => exact h.append rfl hadded Or.inl
  | skip n => exact h.append rfl hadded Or.inl
  | paginate page => exact h.append rfl hadded Or.inl

/-- A receiver reads the parameters of a query behind the endpoint. -/
theorem exists_reads (h : Represents endpoint query parameters) :
    ∃ suffix, query.url = endpoint ++ suffix ∧
      QueryString.Reads endpoint suffix parameters :=
  ⟨_, h.url_eq, QueryString.reads_extension fun parameter hp =>
    Query.isName_of_mem_names _ (h.fst_mem parameter hp)⟩

end Represents

end FilterQuery
