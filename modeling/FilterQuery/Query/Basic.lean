import FilterQuery.Filter
import FilterQuery.Page
import FilterQuery.Sort

/-!
# Queries step by step

A query grows from an endpoint: each step appends what it has to say to the URL built so far, which
decides the mark that joins it.  Besides the URL a query remembers the settings for the filters
still to come, and the property of the order that is open.

* `Query.filter`, `Query.orderBy`, `Query.orderByDesc`, `Query.top`, `Query.skip`, `Query.paginate`:
  the steps.
* `Step`, `Query.apply`, `Query.run`: a step as a value, and what steps make of a query.
-/

namespace FilterQuery

/-- A query that is being built. -/
structure Query where
  url : Text
  openOrder : Option Text
  settings : Settings
  deriving DecidableEq, Repr

namespace Query

/-- The query that asks for everything at an endpoint. -/
def new (endpoint : Text) : Query :=
  ⟨endpoint, none, Settings.standard⟩

/-- A query with other settings for the filters to come. -/
def withSettings (query : Query) (settings : Settings) : Query :=
  { query with settings := settings }

/-- A query with more text behind its URL. -/
def append (query : Query) (text : Text) : Query :=
  { query with url := query.url ++ text }

/-- A query with a filter. -/
def filter (query : Query) (filter : Filter) : Traced Query := do
  let text ← filter.extension query.settings query.url
  return query.append text

/-- A query sorted by a property. -/
def orderBy (query : Query) (property : Text) : Query :=
  { query.append (Sort.ascendingExtension query.url property) with openOrder := some property }

/-- A query sorted by a property from the last to the first, after the order that is open. -/
def orderByDesc (query : Query) (property : Text) : Query :=
  { query.append (Sort.descendingExtension query.url query.openOrder.isSome property) with
    openOrder := query.openOrder.or (some property) }

/-- A query for so many rows at most. -/
def top (query : Query) (n : UInt64) : Query :=
  query.append (QueryString.extension query.url [topParameter n])

/-- A query without so many rows in front. -/
def skip (query : Query) (n : UInt64) : Query :=
  query.append (QueryString.extension query.url [skipParameter n])

/-- A query for one page of rows. -/
def paginate (query : Query) (page : Page) : Query :=
  query.append (page.extension query.url)

end Query

/-- One step of building a query. -/
inductive Step where
  | withSettings (settings : Settings)
  | filter (filter : Filter)
  | orderBy (property : Text)
  | orderByDesc (property : Text)
  | top (n : UInt64)
  | skip (n : UInt64)
  | paginate (page : Page)
  deriving DecidableEq, Repr

namespace Query

/-- A query after one more step. -/
def apply (query : Query) : Step → Traced Query
  | .withSettings settings => return query.withSettings settings
  | .filter filter => query.filter filter
  | .orderBy property => return query.orderBy property
  | .orderByDesc property => return query.orderByDesc property
  | .top n => return query.top n
  | .skip n => return query.skip n
  | .paginate page => return query.paginate page

/-- A query after some more steps. -/
def run (query : Query) : List Step → Traced Query
  | [] => return query
  | step :: others => do
    let query ← query.apply step
    query.run others

end Query

end FilterQuery
