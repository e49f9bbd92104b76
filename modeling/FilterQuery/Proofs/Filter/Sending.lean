import FilterQuery.Proofs.Filter.Extension
import FilterQuery.Proofs.Filter.Members
import FilterQuery.Proofs.Parameter.Amount

/-!
# A filter is sent whole or not at all

Whether a filter asks for anything is decided in several places: where it is made of a JSON value,
where an expression is looked at, and where parameters have become descriptors.  They agree on what
nothing is, and nothing leaves no trace in a URL.  What does ask for something is sent as one
parameter, complete with its mark and its name, and its value is a code that is not empty and that a
receiver undoes.

* `QueryString.IsOne`: what one complete parameter behind a URL is.
* `Json.AsksNothing`: the JSON values that ask for nothing.
* `Filter.value_extension_eq_nil_iff_cases`: the filters that ask for nothing.
* `Filter.sent_whole_or_not_at_all`: all of it together.
-/

namespace FilterQuery

/-! ## One parameter -/

theorem Percent.encode_ne_nil {text : Text} (h : text ≠ []) : encode text ≠ [] := by
  intro hnil
  rw [← decode_encode text, hnil] at h
  exact h rfl

namespace QueryString

/-- A text is one parameter behind a URL: a mark, the name, an equals sign and a code of the value.
The code is not empty, and no character of it has a meaning in a URL. -/
def IsOne (url name value text : Text) : Prop :=
  ∃ code, text = (if '?' ∈ url then '&' else '?') :: name ++ '=' :: code ∧ code ≠ [] ∧
    (∀ c ∈ "&?=#+ ".toList, c ∉ code) ∧ Percent.decode code = value

variable {url name value text : Text}

theorem isOne_extension (url name : Text) (h : value ≠ []) :
    IsOne url name value (extension url [(name, value)]) := by
  refine ⟨Percent.encode value, ?_, Percent.encode_ne_nil h, ?_, Percent.decode_encode value⟩
  · rw [extension_of_ne_nil (List.cons_ne_nil _ _), write, List.map_singleton,
      List.intercalate_singleton, writeOne, joinMark, List.cons_append]
  · intro c hc
    have hall : ("&?=#+ ".toList.all fun c => c ∉ Percent.alphabet) = true := by
      decide +kernel
    exact (Percent.isCode_encode value).notMem
      (of_decide_eq_true (List.all_eq_true.mp hall c hc))

/-- There is more to a parameter than its mark. -/
theorem IsOne.one_lt_length (h : IsOne url name value text) : 1 < text.length := by
  obtain ⟨code, rfl, -, -, -⟩ := h
  rw [List.length_append, List.length_cons, List.length_cons]
  omega

end QueryString

namespace Settings

variable {settings : Settings} {key : Text}

theorem value_describeAll_eq_nil_iff {pairs : List (Text × Text)} :
    (settings.describeAll pairs).value = [] ↔
      ∀ pair ∈ pairs, (settings.describe pair.1 pair.2).value = [] := by
  rw [value_describeAll, List.flatMap_eq_nil_iff]

/-- Whether a parameter contributes anything is decided by its key. -/
theorem value_describe_eq_nil_iff_forall (rawValue : Text) :
    (settings.describe key rawValue).value = [] ↔
      ∀ raw, (settings.describe key raw).value = [] := by
  constructor
  · exact fun h raw => value_describe_eq_nil_iff.mpr (value_describe_eq_nil_iff.mp h)
  · exact fun h => h rawValue

end Settings

/-! ## Filters that ask for nothing -/

/-- A JSON value asks for nothing: it is neither a text nor an object, or it is the empty text, or
each member of it is `null`, an object or under a key that contributes nothing. -/
def Json.AsksNothing : Json → Prop
  | .null | .bool _ | .number _ | .array _ => True
  | .string text => text = []
  | .object members => ∀ member ∈ members,
    member.2 = .null ∨ (∃ inner, member.2 = .object inner) ∨
      ∀ raw, (Settings.standard.describe member.1 raw).value = []

namespace Filter

variable {settings : Settings} {filter : Filter} {url : Text}

theorem payload_ne_nil (descriptors : List Descriptor) : payload descriptors ≠ [] := by
  rw [payload, Json.render]
  exact List.cons_ne_nil _ _

/-- **The filters that ask for nothing** are no filter, the empty expression and parameters none of
which contributes anything. -/
theorem value_extension_eq_nil_iff_cases :
    (filter.extension settings url).value = [] ↔
      filter = .none ∨ filter = .expression [] ∨
        ∃ pairs, filter = .params pairs ∧
          ∀ pair ∈ pairs, (settings.describe pair.1 pair.2).value = [] := by
  cases filter with
  | none => exact iff_of_true rfl (Or.inl rfl)
  | expression text =>
    rw [value_extension, QueryString.extension_eq_nil_iff, value_parameters_expression]
    by_cases htext : text = []
    · rw [if_pos htext, htext]
      exact iff_of_true rfl (Or.inr (Or.inl rfl))
    · rw [if_neg htext]
      simp only [List.cons_ne_nil, reduceCtorEq, Filter.expression.injEq, htext, false_and,
        exists_false, or_false]
  | params pairs =>
    rw [value_extension_eq_nil_iff, Settings.value_describeAll_eq_nil_iff]
    simp only [reduceCtorEq, Filter.params.injEq, false_or, exists_eq_left']

/-- What a filter that asks for something appends is one parameter, with the expression or the
payload for its value. -/
theorem isOne_of_value_extension_ne_nil (h : (filter.extension settings url).value ≠ []) :
    (∃ text, filter = .expression text ∧
      QueryString.IsOne url "$where".toList text (filter.extension settings url).value) ∨
    ∃ pairs, filter = .params pairs ∧
      QueryString.IsOne url "$filter".toList (payload (settings.describeAll pairs).value)
        (filter.extension settings url).value := by
  cases filter with
  | none => exact absurd rfl h
  | expression text =>
    rw [value_extension, value_parameters_expression] at h ⊢
    split at h
    case isTrue => exact absurd rfl h
    case isFalse hne =>
      rw [if_neg hne]
      exact Or.inl ⟨text, rfl, QueryString.isOne_extension url _ hne⟩
  | params pairs =>
    rw [value_extension, value_parameters_params] at h ⊢
    split at h
    case isTrue => exact absurd rfl h
    case isFalse hne =>
      rw [if_neg hne]
      exact Or.inr ⟨pairs, rfl, QueryString.isOne_extension url _ (payload_ne_nil _)⟩

/-- A mark is never left alone. -/
theorem value_extension_ne_singleton (settings : Settings) (filter : Filter) (url : Text)
    (mark : Char) : (filter.extension settings url).value ≠ [mark] := by
  intro h
  have hlength : 1 < (filter.extension settings url).value.length := by
    rcases isOne_of_value_extension_ne_nil (h ▸ List.cons_ne_nil _ _) with
      ⟨text, -, hone⟩ | ⟨pairs, -, hone⟩
    · exact hone.one_lt_length
    · exact hone.one_lt_length
  rw [h, List.length_singleton] at hlength
  exact Nat.lt_irrefl 1 hlength

/-! ## JSON values that ask for nothing -/

/-- A member of an object contributes nothing when it has no text, or nothing is asked for under its
key. -/
theorem forall_text_iff {member : Text × Json} :
    (∀ text, (valueText member.1 member.2).value = some text →
        (settings.describe member.1 text).value = []) ↔
      member.2 = .null ∨ (∃ inner, member.2 = .object inner) ∨
        ∀ raw, (settings.describe member.1 raw).value = [] := by
  rw [← or_assoc, ← Json.hasText_eq_false_iff]
  cases htext : member.2.hasText with
  | false =>
    rw [value_valueText_eq_none htext]
    exact iff_of_true (fun text h => absurd h (by simp)) (Or.inl rfl)
  | true =>
    obtain ⟨text, hsome⟩ := exists_value_valueText member.1 htext
    rw [← Settings.value_describe_eq_nil_iff_forall text, hsome]
    simp

/-- **The JSON values that ask for nothing.** -/
theorem value_jsonExtension_eq_nil_iff {value : Json} :
    (jsonExtension url value).value = [] ↔ value.AsksNothing := by
  cases value with
  | null | bool | number | array => exact iff_of_true rfl trivial
  | string text =>
    show ((ofExpression text).extension Settings.standard url).value = [] ↔ text = []
    rw [value_extension_eq_nil_iff_cases, ofExpression]
    cases text <;> simp
  | object members =>
    rw [value_jsonExtension, value_ofJson_object, value_extension_eq_nil_iff,
      Settings.value_describeAll_eq_nil_iff, value_memberParams]
    refine Iff.trans ?_ (forall₂_congr fun member _ => forall_text_iff)
    constructor
    · intro h member hmem text htext
      exact h (member.1, text) (List.mem_filterMap.mpr ⟨member, hmem, by rw [htext]; rfl⟩)
    · intro h pair hpair
      obtain ⟨member, hmem, hsome⟩ := List.mem_filterMap.mp hpair
      obtain ⟨text, htext, rfl⟩ := Option.map_eq_some_iff.mp hsome
      exact h member hmem text htext

/-- **A filter is sent whole or not at all.**  Nothing is appended for no filter, for the empty
expression and for parameters none of which contributes a descriptor.  For any other filter it is
the mark and one parameter: `$where` with the expression, or `$filter` with the payload of the
descriptors, in a code that is not empty and has no character with a meaning in a URL.  A JSON value
is sent as the filter that is made of it, under the standard settings, and nothing is appended for
it exactly when it asks for nothing.  A mark is never left alone. -/
theorem sent_whole_or_not_at_all (settings : Settings) (url : Text) :
    (∀ filter : Filter, (filter.extension settings url).value = [] ↔
      filter = .none ∨ filter = .expression [] ∨
        ∃ pairs, filter = .params pairs ∧
          ∀ pair ∈ pairs, (settings.describe pair.1 pair.2).value = []) ∧
    (∀ filter : Filter, (filter.extension settings url).value ≠ [] →
      (∃ text, filter = .expression text ∧
        QueryString.IsOne url "$where".toList text (filter.extension settings url).value) ∨
      ∃ pairs, filter = .params pairs ∧
        QueryString.IsOne url "$filter".toList (payload (settings.describeAll pairs).value)
          (filter.extension settings url).value) ∧
    (∀ value, (jsonExtension url value).value = [] ↔ value.AsksNothing) ∧
    (∀ value, (jsonExtension url value).value =
      ((ofJson value).value.extension Settings.standard url).value) ∧
    ∀ value mark, (jsonExtension url value).value ≠ [mark] :=
  ⟨fun _ => value_extension_eq_nil_iff_cases, fun _ => isOne_of_value_extension_ne_nil,
    fun _ => value_jsonExtension_eq_nil_iff, value_jsonExtension url,
    fun value => value_extension_ne_singleton Settings.standard (ofJson value).value url⟩

/-- Keys that contribute nothing for four reasons, every mark of a URL in an expression and in a
value, and an object of which nothing is left. -/
theorem sent_whole_or_not_at_all_marks :
    let settings : Settings := { pageKey := "p".toList }
    let url := "/api?x=1".toList
    let idle := [([], "1".toList), ("p".toList, "1".toList), ("search___".toList, "x".toList),
      ("$a".toList, "1".toList)]
    let expression := Filter.expression "a&b?=#+ ü".toList
    let parameters := Filter.params [("p".toList, "1".toList), ("eq_p".toList, "%26".toList)]
    let object := Json.object
      [("a".toList, .null), ("b".toList, .object [("c".toList, .bool true)]),
        ("page".toList, .number (.integer 1))]
    (∀ pair ∈ idle, (settings.describe pair.1 pair.2).value = []) ∧
    ((Filter.params idle).extension settings url).value = [] ∧
    (expression.extension settings url).value ≠ [] ∧
    QueryString.IsOne url "$where".toList "a&b?=#+ ü".toList
      (expression.extension settings url).value ∧
    (parameters.extension settings url).value ≠ [] ∧
    QueryString.IsOne url "$filter".toList (payload [.field "p".toList .eq Option.none "&".toList])
      (parameters.extension settings url).value ∧
    object.AsksNothing ∧ (jsonExtension url object).value = [] ∧
    (jsonExtension url (.string "?".toList)).value ≠ ['&'] := by
  intro settings url idle expression parameters object
  obtain ⟨hnil, hone, hjson, -, hmark⟩ := sent_whole_or_not_at_all settings url
  have hidle : ∀ pair ∈ idle, (settings.describe pair.1 pair.2).value = [] := by decide +kernel
  have hexpression : (expression.extension settings url).value ≠ [] := by decide +kernel
  have hparameters : (parameters.extension settings url).value ≠ [] := by decide +kernel
  have hobject : object.AsksNothing := by
    refine List.forall_mem_cons.mpr ⟨Or.inl rfl, List.forall_mem_cons.mpr
      ⟨Or.inr (Or.inl ⟨_, rfl⟩), List.forall_mem_singleton.mpr (Or.inr (Or.inr ?_))⟩⟩
    exact (Settings.value_describe_eq_nil_iff_forall []).mp (by decide +kernel)
  refine ⟨hidle, (hnil _).mpr (Or.inr (Or.inr ⟨idle, rfl, hidle⟩)), hexpression, ?_, hparameters,
    ?_, hobject, (hjson object).mpr hobject, hmark _ _⟩
  · rcases hone expression hexpression with ⟨text, htext, h⟩ | ⟨pairs, hpairs, -⟩
    · rwa [Filter.expression.inj htext]
    · exact Filter.noConfusion hpairs
  · rcases hone parameters hparameters with ⟨text, htext, -⟩ | ⟨pairs, hpairs, h⟩
    · exact Filter.noConfusion htext
    · have hdescribe : (settings.describeAll
          [("p".toList, "1".toList), ("eq_p".toList, "%26".toList)]).value =
          [.field "p".toList .eq Option.none "&".toList] := by
        decide +kernel
      rwa [← Filter.params.inj hpairs, hdescribe] at h

end Filter

end FilterQuery
