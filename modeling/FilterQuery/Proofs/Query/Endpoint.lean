import FilterQuery.Proofs.Query.FromParameters

/-!
# The endpoint gives the mark and nothing else

Every step looks through the whole URL for a question mark, so the endpoint has a say in each of
them.  Nevertheless all that it decides is the first mark: two queries that are built in the same
way at two endpoints stay lists of the same parameters, and once a parameter has been appended there
is a question mark in both URLs.  A query that is made of parameters is built in steps too, which
the parameters determine and the endpoint does not.

* `QueryString.rejoined`: a query string behind another endpoint.
* `Query.Alike`: queries that were built in the same way, kept up by every step.
* `Params.steps`, `Query.ofReadable_eq_run`: the steps that parameters ask for.
* `Query.endpoint_gives_mark`: what depends on the endpoint.
-/

namespace FilterQuery

/-- A query string of the empty endpoint behind another one: where that has a question mark, the
one in front of the query string becomes an ampersand. -/
def QueryString.rejoined (endpoint text : Text) : Text :=
  if '?' ∈ endpoint ∧ text.head? = some '?' then '&' :: text.tail else text

theorem QueryString.extension_eq_rejoined (endpoint : Text) (parameters : List (Text × Text)) :
    extension endpoint parameters = rejoined endpoint (extension [] parameters) := by
  by_cases hne : parameters = []
  · subst hne
    simp [rejoined]
  · have hbare : extension [] parameters = '?' :: write parameters := extension_of_ne_nil hne
    rw [extension_of_ne_nil hne, hbare, rejoined, joinMark]
    by_cases hmark : '?' ∈ endpoint
    · rw [if_pos hmark, if_pos ⟨hmark, rfl⟩, List.tail_cons]
    · rw [if_neg hmark, if_neg fun h => hmark h.1]

namespace Query

/-! ## Two queries built in the same way -/

/-- Queries at two endpoints that differ in nothing else: they are lists of the same parameters, and
they will go on in the same way. -/
structure Alike (endpoint other : Text) (query twin : Query) : Prop where
  parameters : ∃ parameters,
    Represents endpoint query parameters ∧ Represents other twin parameters
  openOrder_eq : query.openOrder = twin.openOrder
  settings_eq : query.settings = twin.settings

namespace Alike

variable {endpoint other : Text} {query twin : Query}

theorem new (endpoint other : Text) : Alike endpoint other (new endpoint) (new other) :=
  ⟨⟨[], .new endpoint, .new other⟩, rfl, rfl⟩

/-- **A step keeps queries alike**: what it does to the parameters depends on the settings and on
whether an order is open, and on nothing else. -/
theorem apply (h : Alike endpoint other query twin) (step : Step) :
    Alike endpoint other (query.apply step).value (twin.apply step).value where
  parameters := by
    obtain ⟨parameters, hquery, htwin⟩ := h.parameters
    have hnext := htwin.apply step
    rw [← h.settings_eq, ← h.openOrder_eq] at hnext
    exact ⟨_, hquery.apply step, hnext⟩
  openOrder_eq := by
    cases step with
    | withSettings | filter | top | skip | paginate => exact h.openOrder_eq
    | orderBy property => rfl
    | orderByDesc property => exact congrArg (·.or (some property)) h.openOrder_eq
  settings_eq := by
    cases step with
    | withSettings settings => rfl
    | filter | orderBy | orderByDesc | top | skip | paginate => exact h.settings_eq

/-- What holds of a step holds of a run. -/
theorem run (h : Alike endpoint other query twin) (steps : List Step) :
    Alike endpoint other (query.run steps).value (twin.run steps).value := by
  induction steps generalizing query twin with
  | nil => exact h
  | cons step others ih => exact ih (h.apply step)

/-- Beside a query at the empty endpoint, the other has its query string with the mark that its own
endpoint asks for. -/
theorem url_eq (h : Alike endpoint [] query twin) :
    query.url = endpoint ++ QueryString.rejoined endpoint twin.url ∧
      (twin.url = [] ∨ twin.url.head? = some '?') := by
  obtain ⟨parameters, hquery, htwin⟩ := h.parameters
  have hbare : twin.url = QueryString.extension [] parameters := htwin.url_eq
  rw [hquery.url_eq, hbare, ← QueryString.extension_eq_rejoined]
  refine ⟨rfl, ?_⟩
  by_cases hne : parameters = []
  · exact Or.inl (by rw [hne, QueryString.extension_nil])
  · exact Or.inr (by rw [QueryString.extension_of_ne_nil hne]; rfl)

end Alike

end Query

/-! ## The steps of a query that is made of parameters -/

namespace Params

/-- The steps of the order that parameters ask for. -/
def sortSteps (settings : Settings) (params : List (Text × Text)) : List Step :=
  (lastText? params settings.orderByKey).toList.map Step.orderBy ++
    (lastText? params settings.orderByDescKey).toList.map Step.orderByDesc

/-- The steps of a page, or where there is none of a limit and an offset. -/
def restrictSteps (page : Option Page) (top skip : Option UInt64) : List Step :=
  match page with
  | some page => [.paginate page]
  | none => top.toList.map Step.top ++ skip.toList.map Step.skip

/-- The steps that parameters ask for. -/
def steps (settings : Settings) (params : List (Text × Text)) : List Step :=
  [.withSettings settings, .filter (.params params)] ++ sortSteps settings params ++
    restrictSteps
      (Page.ofOptions? (count? params settings.pageKey) (count? params settings.pageSizeKey))
      (count? params settings.topKey) (count? params settings.skipKey)

end Params

namespace Query

variable {settings : Settings} {params : List (Text × Text)}

theorem value_run_append (query : Query) (front back : List Step) :
    (query.run (front ++ back)).value = ((query.run front).value.run back).value := by
  induction front generalizing query with
  | nil => rfl
  | cons step others ih => exact ih _

theorem sort_eq_run (query : Query) (settings : Settings) (params : List (Text × Text)) :
    query.sort params settings = (query.run (Params.sortSteps settings params)).value := by
  unfold sort Params.sortSteps
  cases Params.lastText? params settings.orderByKey with
  | none => cases Params.lastText? params settings.orderByDescKey <;> rfl
  | some up => cases Params.lastText? params settings.orderByDescKey <;> rfl

theorem restrict_eq_run (query : Query) (page : Option Page) (top skip : Option UInt64) :
    query.restrict page top skip = (query.run (Params.restrictSteps page top skip)).value := by
  cases page with
  | some page => rfl
  | none => cases top <;> cases skip <;> rfl

/-- **Parameters whose numbers can be read are steps.** -/
theorem ofReadable_eq_run (endpoint : Text) (params : List (Text × Text)) (settings : Settings) :
    ofReadable endpoint params settings =
      ((new endpoint).run (Params.steps settings params)).value := by
  rw [Params.steps, value_run_append, value_run_append, ← restrict_eq_run, ← sort_eq_run]
  rfl

/-- **All that depends on the endpoint is the mark.**  Whatever the steps, the text that they append
to an endpoint is what they append to the empty one, but that a question mark in front of it becomes
an ampersand where the endpoint has one.  Parameters fail in the same way at all endpoints or give a
query at each, and the same holds of these queries and of all that become of them. -/
theorem endpoint_gives_mark (endpoint : Text) (settings : Settings)
    (params : List (Text × Text)) :
    (∀ steps,
      ((new endpoint).run steps).value.url =
        endpoint ++ QueryString.rejoined endpoint ((new []).run steps).value.url ∧
      (((new []).run steps).value.url = [] ∨
        ((new []).run steps).value.url.head? = some '?')) ∧
    ((∃ failure, (ofParams endpoint params settings).run.value = .error failure ∧
      (ofParams [] params settings).run.value = .error failure) ∨
    ∃ query twin, (ofParams endpoint params settings).run.value = .ok query ∧
      (ofParams [] params settings).run.value = .ok twin ∧
      ∀ steps,
        (query.run steps).value.url =
          endpoint ++ QueryString.rejoined endpoint (twin.run steps).value.url ∧
        ((twin.run steps).value.url = [] ∨ (twin.run steps).value.url.head? = some '?')) := by
  have hnew := Alike.new endpoint []
  refine ⟨fun steps => (hnew.run steps).url_eq, ?_⟩
  rw [value_ofParams, value_ofParams]
  cases Params.firstRejected? settings params with
  | some found => exact Or.inl ⟨_, rfl, rfl⟩
  | none =>
    refine Or.inr ⟨_, _, rfl, rfl, fun steps => ?_⟩
    rw [ofReadable_eq_run, ofReadable_eq_run]
    exact ((hnew.run (Params.steps settings params)).run steps).url_eq

/-- An order, a filter that sends nothing and a page, at an endpoint with a question mark and at the
empty one. -/
example :
    let steps : List Step :=
      [.filter (.params [("page".toList, "1".toList)]), .orderBy "a.b".toList,
        .orderByDesc "c?".toList, .paginate ⟨1, 5⟩]
    ((new []).run steps).value.url =
      "?$orderby=A%2Fb%2C%20C%3F%20desc&$top=5&$count=true".toList ∧
    ((new "/api#?".toList).run steps).value.url =
      "/api#?&$orderby=A%2Fb%2C%20C%3F%20desc&$top=5&$count=true".toList := by
  decide +kernel

end Query

end FilterQuery
