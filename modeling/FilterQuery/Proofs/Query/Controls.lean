import FilterQuery.Proofs.Filter.Extension
import FilterQuery.Proofs.Parameter.Values
import FilterQuery.Proofs.Query.FromParameters

/-!
# Controls and conditions are read apart

Of the parameters that a query is made from, some are found by name and control the query; the rest
make its filter.  Neither kind has a part in what the other does.  Of a control only the last value
counts, wherever it stands, and the filter is that of the parameters without their controls.  All
this holds whatever the names are: that they look like shortcodes or searches, that two of them are
the same or that one is empty makes no difference, because a name is looked for before anything else
is made of a key.

* `Params.controls`, `Params.others`: the two kinds of parameters.
* `Params.SameLast`: lists of parameters that give every control the same last value.
* `Params.controlled_sent`: the part of what is sent that the controls decide.
* `Query.ofParams_separates`: the two kinds are read apart.
-/

namespace FilterQuery

namespace Params

variable {settings : Settings} {first second params : List (Text × Text)} {key : Text}

/-- The parameters that are found by name. -/
def controls (settings : Settings) (params : List (Text × Text)) : List (Text × Text) :=
  params.filter fun param => settings.isNamedControl param.1

/-- The parameters that are not found by name. -/
def others (settings : Settings) (params : List (Text × Text)) : List (Text × Text) :=
  params.filter fun param => !settings.isNamedControl param.1

/-- Every control has the same last value in both lists, or is in neither. -/
def SameLast (settings : Settings) (first second : List (Text × Text)) : Prop :=
  ∀ key ∈ settings.controlNames, last? first key = last? second key

/-! ## Conditions -/

/-- The descriptors are those of the parameters without the controls. -/
theorem value_describeAll_others (settings : Settings) (params : List (Text × Text)) :
    (settings.describeAll (others settings params)).value =
      (settings.describeAll params).value := by
  rw [Settings.value_describeAll, Settings.value_describeAll, others]
  induction params with
  | nil => rfl
  | cons param rest ih =>
    cases hcontrol : settings.isNamedControl param.1 with
    | true =>
      rw [List.filter_cons_of_neg (by simp [hcontrol]), ih, List.flatMap_cons,
        Settings.value_describe_of_isNamedControl hcontrol, List.nil_append]
    | false =>
      rw [List.filter_cons_of_pos (by simp [hcontrol]), List.flatMap_cons, ih, List.flatMap_cons]

theorem value_extension_eq_of_others (h : others settings first = others settings second)
    (url : Text) :
    ((Filter.params first).extension settings url).value =
      ((Filter.params second).extension settings url).value := by
  rw [Filter.value_extension_params, Filter.value_extension_params,
    ← value_describeAll_others settings first, h, value_describeAll_others]

/-! ## Controls -/

/-- The last value of a control is found among the controls. -/
theorem last?_controls (h : key ∈ settings.controlNames) :
    last? (controls settings params) key = last? params key := by
  have hsame : ∀ param : Text × Text,
      (settings.isNamedControl param.1 ∧ param.1 = key) ↔ param.1 = key :=
    fun param => and_iff_right_of_imp fun hkey => Settings.isNamedControl_iff.mpr (hkey ▸ h)
  rw [last?, last?, controls, ← List.filter_reverse, List.find?_filter]
  simp only [decide_eq_true_eq, hsame]

theorem sameLast_of_controls (h : controls settings first = controls settings second) :
    SameLast settings first second := by
  intro key hkey
  rw [← last?_controls hkey, h, last?_controls hkey]

namespace SameLast

/-- The numbers are controls. -/
theorem last?_numbers (h : SameLast settings first second) :
    last? first settings.pageKey = last? second settings.pageKey ∧
    last? first settings.pageSizeKey = last? second settings.pageSizeKey ∧
    last? first settings.topKey = last? second settings.topKey ∧
    last? first settings.skipKey = last? second settings.skipKey := by
  unfold SameLast Settings.controlNames at h
  exact ⟨h _ (by simp), h _ (by simp), h _ (by simp), h _ (by simp)⟩

/-- The properties to sort by are controls. -/
theorem last?_orders (h : SameLast settings first second) :
    last? first settings.orderByKey = last? second settings.orderByKey ∧
    last? first settings.orderByDescKey = last? second settings.orderByDescKey := by
  unfold SameLast Settings.controlNames at h
  exact ⟨h _ (by simp), h _ (by simp)⟩

theorem firstRejected?_eq (h : SameLast settings first second) :
    firstRejected? settings first = firstRejected? settings second := by
  refine firstRejected?_congr fun key hkey => ?_
  obtain ⟨hpage, hsize, htop, hskip⟩ := h.last?_numbers
  simp only [Settings.numberNames, List.mem_cons, List.not_mem_nil, or_false] at hkey
  rcases hkey with rfl | rfl | rfl | rfl
  · exact hpage
  · exact hsize
  · exact htop
  · exact hskip

theorem orderSent_eq (h : SameLast settings first second) :
    orderSent settings first = orderSent settings second := by
  obtain ⟨hup, hdown⟩ := h.last?_orders
  rw [orderSent, orderSent, lastText?, lastText?, lastText?, lastText?, hup, hdown]

theorem pageSent_eq (h : SameLast settings first second) :
    pageSent settings first = pageSent settings second := by
  obtain ⟨hpage, hsize, htop, hskip⟩ := h.last?_numbers
  simp only [pageSent, count?, hpage, hsize, htop, hskip]

theorem sort_eq (h : SameLast settings first second) (query : Query) :
    query.sort first settings = query.sort second settings := by
  obtain ⟨hup, hdown⟩ := h.last?_orders
  simp only [Query.sort, lastText?, hup, hdown]

end SameLast

/-! ## Names that are sent for controls -/

/-- The names under which the order and the page are sent. -/
def controlledNames : List Text :=
  ["$orderby".toList, "$skip".toList, "$top".toList, "$count".toList]

/-- The parameters that say the order and the page. -/
def controlled (parameters : List (Text × Text)) : List (Text × Text) :=
  parameters.filter fun parameter => controlledNames.contains parameter.1

theorem controlled_append (front back : List (Text × Text)) :
    controlled (front ++ back) = controlled front ++ controlled back :=
  List.filter_append front back

theorem controlled_filterSent (settings : Settings) (params : List (Text × Text)) :
    controlled (filterSent settings params) = [] := by
  simp only [filterSent]
  split <;> rfl

theorem controlled_orderSent (settings : Settings) (params : List (Text × Text)) :
    controlled (orderSent settings params) = orderSent settings params := by
  unfold orderSent
  split <;> rfl

theorem controlled_pageSent (settings : Settings) (params : List (Text × Text)) :
    controlled (pageSent settings params) = pageSent settings params := by
  unfold pageSent
  split
  · dsimp only
    split <;> rfl
  · cases count? params settings.topKey <;> cases count? params settings.skipKey <;> rfl

/-- What is sent for the controls is not mixed with the filter. -/
theorem controlled_sent (settings : Settings) (params : List (Text × Text)) :
    controlled (sent settings params) = orderSent settings params ++ pageSent settings params := by
  rw [sent, controlled_append, controlled_append, controlled_filterSent, controlled_orderSent,
    controlled_pageSent, List.nil_append]

end Params

/-! ## The whole query -/

namespace Query

variable {settings : Settings} {first second : List (Text × Text)}

/-- Parameters with the same last values of the controls fail alike or not at all. -/
theorem value_ofParams_cases (endpoint : Text) (h : Params.SameLast settings first second) :
    (∃ key raw, (ofParams endpoint first settings).run.value = .error (.invalidNumber key raw) ∧
      (ofParams endpoint second settings).run.value = .error (.invalidNumber key raw)) ∨
    ((ofParams endpoint first settings).run.value = .ok (ofReadable endpoint first settings) ∧
      (ofParams endpoint second settings).run.value =
        .ok (ofReadable endpoint second settings)) := by
  rw [value_ofParams, value_ofParams, h.firstRejected?_eq]
  cases Params.firstRejected? settings second with
  | some found => exact Or.inl ⟨found.1, found.2, rfl, rfl⟩
  | none => exact Or.inr ⟨rfl, rfl⟩

theorem ofReadable_eq (endpoint : Text)
    (hothers : Params.others settings first = Params.others settings second)
    (hlast : Params.SameLast settings first second) :
    ofReadable endpoint first settings = ofReadable endpoint second settings := by
  have hfilter : (((new endpoint).withSettings settings).filter (.params first)).value =
      (((new endpoint).withSettings settings).filter (.params second)).value :=
    congrArg ((new endpoint).withSettings settings).append
      (Params.value_extension_eq_of_others hothers endpoint)
  obtain ⟨hpage, hsize, htop, hskip⟩ := hlast.last?_numbers
  simp only [ofReadable, hfilter, hlast.sort_eq, Params.count?, hpage, hsize, htop, hskip]

/-- **Controls and conditions are read apart.**  The filter depends on the parameters that are not
controls and on nothing else.  With these the same, and the same last value of each control, the
query that is built is the same, or the number that cannot be read.  And with the controls the same,
whatever the other parameters are, either no query is built because of one and the same number, or
the order and the page that are read behind the endpoint are the same. -/
theorem ofParams_separates (endpoint : Text) (settings : Settings)
    (first second : List (Text × Text)) :
    (Params.others settings first = Params.others settings second →
      (∀ url, ((Filter.params first).extension settings url).value =
        ((Filter.params second).extension settings url).value) ∧
      ((∀ key ∈ settings.controlNames, Params.last? first key = Params.last? second key) →
        (∃ key raw,
          (ofParams endpoint first settings).run.value = .error (.invalidNumber key raw) ∧
          (ofParams endpoint second settings).run.value = .error (.invalidNumber key raw)) ∨
        ∃ query, (ofParams endpoint first settings).run.value = .ok query ∧
          (ofParams endpoint second settings).run.value = .ok query)) ∧
    (Params.controls settings first = Params.controls settings second →
      (∃ key raw,
        (ofParams endpoint first settings).run.value = .error (.invalidNumber key raw) ∧
        (ofParams endpoint second settings).run.value = .error (.invalidNumber key raw)) ∨
      ∃ query query' suffix suffix' sent sent',
        (ofParams endpoint first settings).run.value = .ok query ∧
        (ofParams endpoint second settings).run.value = .ok query' ∧
        query.url = endpoint ++ suffix ∧ QueryString.Reads endpoint suffix sent ∧
        query'.url = endpoint ++ suffix' ∧ QueryString.Reads endpoint suffix' sent' ∧
        Params.controlled sent = Params.controlled sent') := by
  refine ⟨fun hothers => ⟨Params.value_extension_eq_of_others hothers, fun hlast => ?_⟩,
    fun hcontrols => ?_⟩
  · rcases value_ofParams_cases endpoint hlast with hfail | ⟨hfirst, hsecond⟩
    · exact Or.inl hfail
    · rw [← ofReadable_eq endpoint hothers hlast] at hsecond
      exact Or.inr ⟨_, hfirst, hsecond⟩
  · have hlast := Params.sameLast_of_controls hcontrols
    rcases value_ofParams_cases endpoint hlast with hfail | ⟨hfirst, hsecond⟩
    · exact Or.inl hfail
    · obtain ⟨suffix, hurl, hreads⟩ := (represents_ofReadable endpoint first settings).exists_reads
      obtain ⟨suffix', hurl', hreads'⟩ :=
        (represents_ofReadable endpoint second settings).exists_reads
      refine Or.inr ⟨_, _, suffix, suffix', _, _, hfirst, hsecond, hurl, hreads, hurl', hreads',
        ?_⟩
      rw [Params.controlled_sent, Params.controlled_sent, hlast.orderSent_eq, hlast.pageSent_eq]

/-- Controls whose names look like a shortcode and a search, are the same or are empty, with their
values repeated and in other places; and other parameters beside the same controls, one of them with
the text of a parameter for its value. -/
theorem ofParams_separates_lookalikes :
    let settings : Settings :=
      { pageKey := "eq_page".toList, pageSizeKey := "search_size".toList,
        orderByKey := "by".toList, orderByDescKey := "by".toList, topKey := [],
        skipKey := "eq_page".toList }
    let first :=
      [("sw_name".toList, "J%26".toList), ("eq_page".toList, "x".toList),
        ("by".toList, "a.b".toList), ("$top".toList, "1".toList), ("eq_page".toList, " 3 ".toList),
        ([], "7".toList)]
    let second :=
      [([], "7".toList), ("by".toList, []), ("eq_page".toList, " 3 ".toList),
        ("sw_name".toList, "J%26".toList), ("by".toList, "a.b".toList),
        ("$top".toList, "1".toList)]
    let third :=
      [("eq_page".toList, "x".toList), ("search_q".toList, "&$skip=9".toList),
        ("by".toList, "a.b".toList), ("eq_page".toList, " 3 ".toList), ([], "7".toList)]
    let ordered :=
      [("$orderby".toList, "A/b, A/b desc".toList), ("$top".toList, "7".toList),
        ("$skip".toList, "3".toList)]
    Params.others settings first = Params.others settings second ∧
    (∀ key ∈ settings.controlNames, Params.last? first key = Params.last? second key) ∧
    Params.controls settings first = Params.controls settings third ∧
    ∃ query,
      query.url = "/api".toList ++ QueryString.extension "/api".toList
        (("$filter".toList, payload [.field "name".toList .startsWith none "J&".toList]) ::
          ordered) ∧
      (ofParams "/api".toList first settings).run.value = .ok query ∧
      (ofParams "/api".toList second settings).run.value = .ok query ∧
      ∃ query' suffix sent,
        (ofParams "/api".toList third settings).run.value = .ok query' ∧
        query'.url = "/api".toList ++ suffix ∧ QueryString.Reads "/api".toList suffix sent ∧
        Params.controlled sent = ordered := by
  intro settings first second third ordered
  have hothers : Params.others settings first = Params.others settings second := by decide +kernel
  have hlast : ∀ key ∈ settings.controlNames,
      Params.last? first key = Params.last? second key := by decide +kernel
  have hcontrols : Params.controls settings first = Params.controls settings third := by
    decide +kernel
  -- that the numbers can be read and what is sent for them is left to computation
  have hreadable : Params.firstRejected? settings first = none := by decide +kernel
  have hsent : Params.sent settings first =
      ("$filter".toList, payload [.field "name".toList .startsWith none "J&".toList]) ::
        ordered := by
    decide +kernel
  have hfirst : (ofParams "/api".toList first settings).run.value =
      .ok (ofReadable "/api".toList first settings) := by
    rw [value_ofParams, hreadable]
  have hrepresents := represents_ofReadable "/api".toList first settings
  rw [hsent] at hrepresents
  have hsecond := ((ofParams_separates "/api".toList settings first second).1 hothers).2 hlast
  have hthird := (ofParams_separates "/api".toList settings first third).2 hcontrols
  simp only [hfirst, reduceCtorEq, false_and, exists_false, false_or,
    Except.ok.injEq] at hsecond hthird
  obtain ⟨_, rfl, hsecond⟩ := hsecond
  obtain ⟨_, query', suffix', suffix, sent', sent, rfl, hthird, hurl', hreads', hurl, hreads,
    hcontrolled⟩ := hthird
  have hordered : Params.controlled sent' = ordered := by
    obtain ⟨text, htext, hreads⟩ := hrepresents.exists_reads
    obtain rfl : text = suffix' := List.append_cancel_left (htext.symm.trans hurl')
    obtain rfl := hreads.unique hreads'
    rfl
  exact ⟨hothers, hlast, hcontrols, _, hrepresents.url_eq, hfirst, hsecond, query', suffix, sent,
    hthird, hurl, hreads, hcontrolled.symm.trans hordered⟩

end Query

end FilterQuery
