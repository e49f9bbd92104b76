import FilterQuery.Query.Basic

/-!
# Queries from parameters

A whole list of parameters becomes a query.  The numbers that control paging are read first, so that
a bad one is found before anything is built, even one that would not be used.  Then come the filter,
the order and the paging, in this order.  A page takes the place of `$top` and `$skip`.
-/

namespace FilterQuery.Query

/-- A query with a page, or where there is none with a limit and an offset. -/
def restrict (query : Query) (page : Option Page) (top skip : Option UInt64) : Query :=
  match page with
  | some page => query.paginate page
  | none =>
    let query := match top with
      | some n => query.top n
      | none => query
    match skip with
    | some n => query.skip n
    | none => query

/-- A query with the order that parameters ask for. -/
def sort (query : Query) (params : List (Text × Text)) (settings : Settings) : Query :=
  let query := match Params.lastText? params settings.orderByKey with
    | some property => query.orderBy property
    | none => query
  match Params.lastText? params settings.orderByDescKey with
  | some property => query.orderByDesc property
  | none => query

/-- The query that parameters ask for at an endpoint. -/
def ofParams (endpoint : Text) (params : List (Text × Text)) (settings : Settings) :
    ExceptT Failure Traced Query := do
  let page ← Page.ofParams settings params
  let top ← Params.number? params settings.topKey
  let skip ← Params.number? params settings.skipKey
  let filtered ← ((new endpoint).withSettings settings).filter (.params params)
  let query := (filtered.sort params settings).restrict page top skip
  Traced.record (.queryBuilt query.url)
  return query

end FilterQuery.Query
