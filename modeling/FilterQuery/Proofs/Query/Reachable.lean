import FilterQuery.Proofs.Query.FromParameters

/-!
# The queries that can be built

A query starts at an endpoint, empty or with what parameters ask for, and goes on in steps.  What
holds of a new query and of one built of parameters, and is kept up by a step, holds of all of them.
The first such fact is that they are lists of parameters.

* `Query.Reachable`: the queries that steps lead to.
* `Query.Reachable.represents`: each of them is a list of parameters behind its endpoint.
* `Query.url_prefix_url_apply`: a step only ever appends.
-/

namespace FilterQuery.Query

variable {endpoint : Text} {query : Query}

/-- The queries that steps lead to at an endpoint, from a new query or from one that was built of
parameters. -/
inductive Reachable (endpoint : Text) : Query → Prop
  | new : Reachable endpoint (new endpoint)
  | ofParams {params : List (Text × Text)} {settings : Settings} {query : Query}
      (h : (ofParams endpoint params settings).run.value = .ok query) : Reachable endpoint query
  | apply {query : Query} (h : Reachable endpoint query) (step : Step) :
      Reachable endpoint (query.apply step).value

/-- The order of the steps and their number do not matter. -/
theorem Reachable.run (h : Reachable endpoint query) (steps : List Step) :
    Reachable endpoint (query.run steps).value := by
  induction steps generalizing query with
  | nil => exact h
  | cons step others ih => exact ih (h.apply step)

/-- **Whatever the steps, a query is a list of parameters behind its endpoint.** -/
theorem Reachable.represents (h : Reachable endpoint query) :
    ∃ parameters, Represents endpoint query parameters := by
  induction h with
  | new => exact ⟨_, .new endpoint⟩
  | ofParams h => exact ⟨_, represents_ofParams h⟩
  | apply _ step ih =>
    obtain ⟨parameters, hp⟩ := ih
    exact ⟨_, hp.apply step⟩

/-- A step leaves the URL as it is and writes behind it. -/
theorem url_prefix_url_apply (query : Query) (step : Step) :
    query.url <+: (query.apply step).value.url := by
  cases step with
  | withSettings => exact List.prefix_refl query.url
  | filter | orderBy | orderByDesc | top | skip | paginate => exact List.prefix_append _ _

end FilterQuery.Query
