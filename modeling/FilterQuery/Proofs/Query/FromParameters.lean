import FilterQuery.Proofs.Params.Number
import FilterQuery.Proofs.Query.Represents
import FilterQuery.Query.OfParams

/-!
# What is sent for a list of parameters

Building a query from parameters can only fail at one of the four numbers that control paging.  When
it does not, what is sent depends on the parameters in three separate ways, which `Params.sent`
writes down one after another: the filter that all of them make, the order that the last values of
two of them ask for, and the page.

* `Params.sent`: the parameters that are sent, in their order.
* `Query.run_ofParams`: what is made of parameters, be it a query or a failure.
* `Query.represents_ofParams`: its parameters are those of `Params.sent`.
* `Query.ofParams_reads_sent`: a receiver reads just them behind the endpoint.
-/

namespace FilterQuery

namespace Params

/-- The filter that is sent. -/
def filterSent (settings : Settings) (params : List (Text × Text)) : List (Text × Text) :=
  let descriptors := (settings.describeAll params).value
  if descriptors = [] then [] else [("$filter".toList, payload descriptors)]

/-- The order that is sent.  An empty property asks for none. -/
def orderSent (settings : Settings) (params : List (Text × Text)) : List (Text × Text) :=
  match lastText? params settings.orderByKey, lastText? params settings.orderByDescKey with
  | none, none => []
  | some up, none => [("$orderby".toList, Sort.normalize up)]
  | none, some down => [("$orderby".toList, Sort.normalize down ++ " desc".toList)]
  | some up, some down =>
    [("$orderby".toList,
      Sort.normalize up ++ ", ".toList ++ Sort.normalize down ++ " desc".toList)]

/-- The page that is sent, or where there is none the limit and the offset. -/
def pageSent (settings : Settings) (params : List (Text × Text)) : List (Text × Text) :=
  match count? params settings.pageKey, count? params settings.pageSizeKey with
  | some number, some size =>
    let offset := Page.offset ⟨number, size⟩
    (if 0 < offset then [("$skip".toList, Text.ofNat offset.toNat)] else []) ++
      [("$top".toList, Text.ofNat size.toNat), ("$count".toList, "true".toList)]
  | _, _ =>
    (count? params settings.topKey).toList.map (fun n => ("$top".toList, Text.ofNat n.toNat)) ++
      (count? params settings.skipKey).toList.map fun n => ("$skip".toList, Text.ofNat n.toNat)

/-- What is sent for a list of parameters. -/
def sent (settings : Settings) (params : List (Text × Text)) : List (Text × Text) :=
  filterSent settings params ++ orderSent settings params ++ pageSent settings params

end Params

/-- The names of the parameters that are numbers. -/
def Settings.numberNames (settings : Settings) : List Text :=
  [settings.pageKey, settings.pageSizeKey, settings.topKey, settings.skipKey]

namespace Params

/-- The first number that cannot be read, with its name. -/
def firstRejected? (settings : Settings) (params : List (Text × Text)) : Option (Text × Text) :=
  settings.numberNames.findSome? fun key => (rejected? params key).map fun raw => (key, raw)

theorem firstRejected?_eq_none_iff {settings : Settings} {params : List (Text × Text)} :
    firstRejected? settings params = none ↔ ∀ key ∈ settings.numberNames,
      (count? params key).isSome = (last? params key).isSome := by
  simp only [firstRejected?, List.findSome?_eq_none_iff, Option.map_eq_none_iff,
    rejected?_eq_none_iff]

/-- Nothing is asked of parameters but the last values of the four names. -/
theorem firstRejected?_congr {settings : Settings} {first second : List (Text × Text)}
    (h : ∀ key ∈ settings.numberNames, last? first key = last? second key) :
    firstRejected? settings first = firstRejected? settings second := by
  simp only [Settings.numberNames, List.forall_mem_cons] at h
  obtain ⟨hpage, hsize, htop, hskip, -⟩ := h
  simp only [firstRejected?, rejected?, Settings.numberNames, List.findSome?_cons,
    List.findSome?_nil, hpage, hsize, htop, hskip]

end Params

/-! ## The parts of a query -/

namespace Represents

variable {endpoint : Text} {query : Query} {parameters : List (Text × Text)}

theorem sort (h : Represents endpoint query parameters) (hopen : query.openOrder = none)
    (params : List (Text × Text)) (settings : Settings) :
    Represents endpoint (query.sort params settings)
      (parameters ++ Params.orderSent settings params) := by
  unfold Query.sort Params.orderSent
  cases Params.lastText? params settings.orderByKey with
  | none =>
    cases Params.lastText? params settings.orderByDescKey with
    | none => simpa using h
    | some down =>
      have hdown := h.apply (.orderByDesc down)
      rwa [hopen] at hdown
  | some up =>
    have hup := h.apply (.orderBy up)
    cases Params.lastText? params settings.orderByDescKey with
    | none => exact hup
    | some down =>
      -- the order that has just been sent is the last parameter, so it is the one that grows
      have hdown := hup.apply (.orderByDesc down)
      change Represents endpoint _ (FilterQuery.extendLast (Sort.continuation down)
        (parameters ++ [("$orderby".toList, Sort.normalize up)])) at hdown
      rw [extendLast_concat, Sort.continuation, ← List.append_assoc, ← List.append_assoc] at hdown
      exact hdown

/-- Without a page, the limit and the offset are sent that are there. -/
theorem restrict_none (h : Represents endpoint query parameters) (top skip : Option UInt64) :
    Represents endpoint (query.restrict none top skip)
      (parameters ++ (top.toList.map (fun n => ("$top".toList, Text.ofNat n.toNat)) ++
        skip.toList.map fun n => ("$skip".toList, Text.ofNat n.toNat))) := by
  rw [← List.append_assoc]
  cases top with
  | none =>
    rw [Option.toList_none, List.map_nil, List.append_nil]
    cases skip with
    | none => simpa [Query.restrict] using h
    | some m => exact h.apply (.skip m)
  | some n =>
    have htop := h.apply (.top n)
    cases skip with
    | none =>
      rw [Option.toList_none, List.map_nil, List.append_nil]
      exact htop
    | some m => exact htop.apply (.skip m)

theorem restrict (h : Represents endpoint query parameters) (settings : Settings)
    (params : List (Text × Text)) :
    Represents endpoint
      (query.restrict
        (Page.ofOptions? (Params.count? params settings.pageKey)
          (Params.count? params settings.pageSizeKey))
        (Params.count? params settings.topKey) (Params.count? params settings.skipKey))
      (parameters ++ Params.pageSent settings params) := by
  have hrest := h.restrict_none (Params.count? params settings.topKey)
    (Params.count? params settings.skipKey)
  unfold Params.pageSent
  cases Params.count? params settings.pageKey with
  | none => exact hrest
  | some number =>
    cases Params.count? params settings.pageSizeKey with
    | none => exact hrest
    | some size => exact h.apply (.paginate ⟨number, size⟩)

end Represents

/-! ## The whole query -/

namespace Query

variable {endpoint : Text} {params : List (Text × Text)} {settings : Settings} {query : Query}

/-- The query of parameters whose numbers can be read. -/
def ofReadable (endpoint : Text) (params : List (Text × Text)) (settings : Settings) : Query :=
  let filtered := (((new endpoint).withSettings settings).filter (.params params)).value
  (filtered.sort params settings).restrict
    (Page.ofOptions? (Params.count? params settings.pageKey)
      (Params.count? params settings.pageSizeKey))
    (Params.count? params settings.topKey) (Params.count? params settings.skipKey)

/-- **Parameters make one certain query, unless a number cannot be read.**  Then the first such
number is the failure, and nothing else is recorded. -/
theorem run_ofParams (endpoint : Text) (params : List (Text × Text)) (settings : Settings) :
    (ofParams endpoint params settings).run =
      match Params.firstRejected? settings params with
      | some (key, raw) => ⟨.error (.invalidNumber key raw), [.numberRejected key raw]⟩
      | none => ⟨.ok (ofReadable endpoint params settings),
          (((new endpoint).withSettings settings).filter (.params params)).events ++
            [.queryBuilt (ofReadable endpoint params settings).url]⟩ := by
  rw [ofParams, Page.ofParams, Params.firstRejected?, Settings.numberNames]
  simp only [bind_assoc, pure_bind, Params.run_number?_bind, List.findSome?_cons]
  -- the numbers are read one after another, and the first that cannot be read is the failure
  cases Params.rejected? params settings.pageKey with
  | some raw => rfl
  | none =>
  cases Params.rejected? params settings.pageSizeKey with
  | some raw => rfl
  | none =>
  cases Params.rejected? params settings.topKey with
  | some raw => rfl
  | none =>
  cases Params.rejected? params settings.skipKey with
  | some raw => rfl
  | none =>
    refine Traced.ext rfl ?_
    show (((new endpoint).withSettings settings).filter (.params params)).events ++ [] ++
      [.queryBuilt (ofReadable endpoint params settings).url] = _
    rw [List.append_nil]
    rfl

theorem value_ofParams (endpoint : Text) (params : List (Text × Text)) (settings : Settings) :
    (ofParams endpoint params settings).run.value =
      match Params.firstRejected? settings params with
      | some (key, raw) => .error (.invalidNumber key raw)
      | none => .ok (ofReadable endpoint params settings) := by
  rw [run_ofParams]
  cases Params.firstRejected? settings params with
  | some found => rfl
  | none => rfl

theorem value_ofParams_eq_ok_iff :
    (ofParams endpoint params settings).run.value = .ok query ↔
      (∀ key ∈ settings.numberNames,
        (Params.count? params key).isSome = (Params.last? params key).isSome) ∧
      query = ofReadable endpoint params settings := by
  rw [value_ofParams, ← Params.firstRejected?_eq_none_iff]
  cases Params.firstRejected? settings params with
  | some found => simp
  | none => simp [eq_comm]

theorem represents_ofReadable (endpoint : Text) (params : List (Text × Text))
    (settings : Settings) :
    Represents endpoint (ofReadable endpoint params settings) (Params.sent settings params) := by
  have hfilter := ((Represents.new endpoint).apply (.withSettings settings)).apply
    (.filter (.params params))
  exact (hfilter.sort rfl params settings).restrict settings params

theorem represents_ofParams (h : (ofParams endpoint params settings).run.value = .ok query) :
    Represents endpoint query (Params.sent settings params) := by
  obtain ⟨-, rfl⟩ := value_ofParams_eq_ok_iff.mp h
  exact represents_ofReadable endpoint params settings

/-- **A receiver reads just what the parameters ask for.**  A query that has been built is the
endpoint with a query string that reads as `Params.sent`, and every number that the parameters give
is in it with the value that it has. -/
theorem ofParams_reads_sent (h : (ofParams endpoint params settings).run.value = .ok query) :
    (∃ suffix, query.url = endpoint ++ suffix ∧
      QueryString.Reads endpoint suffix (Params.sent settings params)) ∧
    ∀ key ∈ settings.numberNames,
      (Params.count? params key).isSome = (Params.last? params key).isSome := by
  refine ⟨?_, (value_ofParams_eq_ok_iff.mp h).1⟩
  exact (represents_ofParams h).exists_reads

/-- A filter, an order in both directions and a page, behind an endpoint with a query string. -/
theorem ofParams_reads_sent_second_page :
    ∃ query suffix,
      (ofParams "/api?x=1".toList
        [("page".toList, "1".toList), ("swl_na_me".toList, "J%26ü".toList),
          ("$orderBy".toList, "a.b".toList), ("pageSize".toList, " +10 ".toList),
          ("$orderByDesc".toList, "c&d".toList), ("page".toList, "2".toList)]
        Settings.standard).run.value = .ok query ∧
      query.url = "/api?x=1".toList ++ suffix ∧
      QueryString.Reads "/api?x=1".toList suffix
        [("$filter".toList,
            payload [.field "na_me".toList .startsWith (some .lower) "J&ü".toList]),
          ("$orderby".toList, "A/b, C&d desc".toList), ("$skip".toList, "10".toList),
          ("$top".toList, "10".toList), ("$count".toList, "true".toList)] := by
  -- that the numbers can be read and what is sent for them is left to computation
  have key : ∀ params parameters : List (Text × Text),
      (∀ key ∈ Settings.standard.numberNames,
        (Params.count? params key).isSome = (Params.last? params key).isSome) →
      Params.sent Settings.standard params = parameters →
      ∃ query suffix,
        (ofParams "/api?x=1".toList params Settings.standard).run.value = .ok query ∧
        query.url = "/api?x=1".toList ++ suffix ∧
        QueryString.Reads "/api?x=1".toList suffix parameters := by
    rintro params parameters hkeys rfl
    have hquery : (ofParams "/api?x=1".toList params Settings.standard).run.value = .ok _ :=
      value_ofParams_eq_ok_iff.mpr ⟨hkeys, rfl⟩
    obtain ⟨⟨suffix, hurl, hreads⟩, -⟩ := ofParams_reads_sent hquery
    exact ⟨_, suffix, hquery, hurl, hreads⟩
  exact key _ _ (by decide +kernel) (by decide +kernel)

end Query

end FilterQuery
