import FilterQuery.Proofs.Parameter.Grammar
import FilterQuery.Proofs.Parameter.Groups

/-!
# How much a parameter contributes

Some keys contribute nothing, a search contributes as much as it names fields, and any other key
contributes one descriptor.  Which of these it is can be said without going through the questions
that are asked of a key one after another, as long as it is said what each answer leaves open: a tag
counts only where the key is not the name of a control, and the reserved mark and the paging keys
count only where there is no tag.  What a key with a tag contributes therefore does not depend on
the settings but for the names of the controls.

* `Settings.isControl_iff`: the keys that control a query.
* `Settings.role_of_opens_shortcode`, `Settings.role_of_opens_search`: what a tag comes to.
* `Settings.value_describe_eq_nil_iff`: the keys that contribute nothing.
* `Settings.describe_eq_of_opens`: settings that make no difference to a key with a tag.
* `Settings.amount_by_key`: all of it together.
-/

namespace FilterQuery

theorem SearchMode.expand_eq_nil_iff {mode : SearchMode} {fields value : Text} :
    mode.expand fields value = [] ↔ ∀ c ∈ fields, c = '_' := by
  rw [expand, ← Text.words_eq_nil_iff]
  cases Text.words '_' fields with
  | nil => exact iff_of_true rfl rfl
  | cons first others => exact iff_of_false (List.cons_ne_nil _ _) (List.cons_ne_nil _ _)

namespace Settings

variable {settings other : Settings} {key tag rest : Text}

theorem isControl_iff : settings.isControl key = true ↔
    key ∈ settings.controlNames ∨ key.head? = some settings.reservedMark ∨
      ∃ paging ∈ settings.pagingKeys, paging.map Char.toLower = key.map Char.toLower := by
  rw [isControl, Bool.or_eq_true, Bool.or_eq_true, isNamedControl_iff, or_assoc, isReserved,
    isPagingKey, List.any_eq_true, beq_iff_eq]
  simp only [sameLetters, beq_iff_eq]

/-! ## Keys with a tag -/

theorem role_of_opens_shortcode {code : Shortcode} {property : Text}
    (hcode : code ∈ Shortcode.table) (hopens : Text.Opens key code.tag property)
    (hcontrol : key ∉ settings.controlNames) : settings.role key = .condition code property := by
  obtain ⟨-, hkey⟩ := Text.opens_iff.mp hopens
  exact role_eq_iff.mpr (.condition hcontrol hcode hkey)

theorem role_of_opens_search {mode : SearchMode} {fields : Text}
    (hopens : Text.Opens key mode.tag fields) (hcontrol : key ∉ settings.controlNames) :
    settings.role key = .search mode fields := by
  obtain ⟨-, hkey⟩ := Text.opens_iff.mp hopens
  exact role_eq_iff.mpr (.search hcontrol hkey)

/-- Settings make no difference to a key with a tag, unless it is the name of a control. -/
theorem describe_eq_of_opens (hopens : Text.Opens key tag rest) (htag : tag ∈ keyTags)
    (hcontrol : key ∉ settings.controlNames) (hother : key ∉ other.controlNames)
    (rawValue : Text) : settings.describe key rawValue = other.describe key rawValue := by
  have hrole : settings.role key = other.role key := by
    rcases mem_keyTags_iff.mp htag with ⟨code, hcode, rfl⟩ | ⟨mode, rfl⟩
    · rw [role_of_opens_shortcode hcode hopens hcontrol,
        role_of_opens_shortcode hcode hopens hother]
    · rw [role_of_opens_search hopens hcontrol, role_of_opens_search hopens hother]
  rw [describe, describe, hrole]

/-! ## Keys that contribute nothing -/

theorem value_describe_eq_nil_iff {rawValue : Text} :
    (settings.describe key rawValue).value = [] ↔
      key = [] ∨ key ∈ settings.controlNames ∨
      (∃ (mode : SearchMode) (fields : Text), Text.Opens key mode.tag fields ∧
        ∀ c ∈ fields, c = '_') ∨
      ((∀ tag rest, Text.Opens key tag rest → tag ∉ keyTags) ∧
        (key.head? = some settings.reservedMark ∨
          ∃ paging ∈ settings.pagingKeys, paging.map Char.toLower = key.map Char.toLower)) := by
  have hrole := settings.hasRole_role key
  rw [value_describe]
  generalize settings.role key = role at hrole
  cases hrole with
  | unnamed h => exact iff_of_true rfl (Or.inl h)
  | control _ h => exact iff_of_true rfl (Or.inr (Or.inl h))
  | @condition code property hcontrol hcode hkey =>
    have htag := Shortcode.tag_mem_keyTags hcode
    have hopens : Text.Opens key code.tag property := (opens_iff_of_mem_keyTags htag).mpr hkey
    refine iff_of_false (List.cons_ne_nil _ _) ?_
    rintro (hnil | hnamed | ⟨mode, fields, hsearch, -⟩ | ⟨hplain, -⟩)
    · exact ne_nil_of_tag htag hkey hnil
    · exact hcontrol hnamed
    · exact SearchMode.tag_ne_tag mode mode.mem_all code hcode (hopens.unique hsearch).1
    · exact hplain _ _ hopens htag
  | @search mode fields hcontrol hkey =>
    have hopens : Text.Opens key mode.tag fields := mode.isTag_tag.opens_iff.mpr hkey
    show mode.expand fields _ = [] ↔ _
    rw [SearchMode.expand_eq_nil_iff]
    constructor
    · intro hfields
      exact Or.inr (Or.inr (Or.inl ⟨mode, fields, hopens, hfields⟩))
    · rintro (hnil | hnamed | ⟨mode', fields', hsearch, hfields⟩ | ⟨hplain, -⟩)
      · exact absurd hnil (ne_nil_of_tag mode.tag_mem_keyTags hkey)
      · exact absurd hnamed hcontrol
      · rwa [(hopens.unique hsearch).2]
      · exact absurd mode.tag_mem_keyTags (hplain _ _ hopens)
  | reserved _ hcontrol htag h =>
    have hplain := forall_keyTags_not_prefix_iff_opens.mp htag
    have hreserved := (isControl_iff.mp h).resolve_left hcontrol
    exact iff_of_true rfl (Or.inr (Or.inr (Or.inr ⟨hplain, hreserved⟩)))
  | equality hne htag h =>
    have hplain := forall_keyTags_not_prefix_iff_opens.mp htag
    refine iff_of_false (List.cons_ne_nil _ _) ?_
    rw [Bool.eq_false_iff, Ne, isControl_iff] at h
    rintro (hnil | hnamed | ⟨mode, fields, hsearch, -⟩ | ⟨-, hreserved⟩)
    · exact hne hnil
    · exact h (Or.inl hnamed)
    · exact hplain _ _ hsearch mode.tag_mem_keyTags
    · exact h (Or.inr hreserved)

/-! ## Keys that contribute something -/

/-- A key without a tag asks for equality, if it contributes anything. -/
theorem value_describe_of_ne_nil {rawValue : Text}
    (hplain : ∀ tag rest, Text.Opens key tag rest → tag ∉ keyTags)
    (hne : (settings.describe key rawValue).value ≠ []) :
    (settings.describe key rawValue).value = [.field key .eq none (Percent.decode rawValue)] := by
  have hrole := settings.hasRole_role key
  rw [value_describe] at hne ⊢
  generalize settings.role key = role at hrole hne
  cases hrole with
  | unnamed | control | reserved => exact absurd rfl hne
  | condition _ hcode hkey =>
    have htag := Shortcode.tag_mem_keyTags hcode
    exact absurd htag (hplain _ _ ((opens_iff_of_mem_keyTags htag).mpr hkey))
  | @search mode _ _ hkey =>
    exact absurd mode.tag_mem_keyTags (hplain _ _ (mode.isTag_tag.opens_iff.mpr hkey))
  | equality => rfl

/-- A search contributes one fragment for each part of its fields that is not empty. -/
theorem map_sql_describe_of_opens {mode : SearchMode} {fields : Text}
    (hopens : Text.Opens key mode.tag fields) (hcontrol : key ∉ settings.controlNames)
    (rawValue : Text) : (settings.describe key rawValue).value.map Descriptor.sql =
      ((fields.splitOn '_').filter fun part => part ≠ []).map
        fun part => some (mode.template (Text.capitalize part)) := by
  rw [value_describe, role_of_opens_search hopens hcontrol]
  show (mode.group _ (Text.words '_' fields)).map Descriptor.sql = _
  rw [SearchMode.map_sql_group, Text.words_eq_filter_splitOn]

/-- **The key of a parameter says how much it contributes.**  Nothing comes of an empty key, of the
name of a control, of a search that names no field, and of a key that has no tag up to its first
underscore and is reserved or a paging key.  Unless the key is the name of a control, a shortcode
contributes just one condition, on the rest of the key, and a search one fragment for each name in
the rest, in their order.  What else contributes anything asks for equality and has the whole key
for its property.  Settings that have other names for the controls agree on any key with a tag. -/
theorem amount_by_key (settings other : Settings) (key rawValue : Text) :
    ((settings.describe key rawValue).value = [] ↔
      key = [] ∨ key ∈ settings.controlNames ∨
      (∃ (mode : SearchMode) (fields : Text), Text.Opens key mode.tag fields ∧
        ∀ c ∈ fields, c = '_') ∨
      ((∀ tag rest, Text.Opens key tag rest → tag ∉ keyTags) ∧
        (key.head? = some settings.reservedMark ∨
          ∃ paging ∈ settings.pagingKeys, paging.map Char.toLower = key.map Char.toLower))) ∧
    (∀ code ∈ Shortcode.table, ∀ property, Text.Opens key code.tag property →
      key ∉ settings.controlNames →
      (settings.describe key rawValue).value =
        [.field property code.operation code.transform (Percent.decode rawValue)]) ∧
    (∀ (mode : SearchMode) (fields : Text), Text.Opens key mode.tag fields →
      key ∉ settings.controlNames →
      (settings.describe key rawValue).value.map Descriptor.sql =
        ((fields.splitOn '_').filter fun part => part ≠ []).map
          fun part => some (mode.template (Text.capitalize part))) ∧
    ((∀ tag rest, Text.Opens key tag rest → tag ∉ keyTags) →
      (settings.describe key rawValue).value ≠ [] →
      (settings.describe key rawValue).value =
        [.field key .eq none (Percent.decode rawValue)]) ∧
    ∀ tag rest, Text.Opens key tag rest → tag ∈ keyTags →
      key ∉ settings.controlNames → key ∉ other.controlNames →
      settings.describe key rawValue = other.describe key rawValue := by
  refine ⟨value_describe_eq_nil_iff, ?_,
    fun _ _ hopens hcontrol => map_sql_describe_of_opens hopens hcontrol rawValue,
    value_describe_of_ne_nil, ?_⟩
  · intro code hcode property hopens hcontrol
    rw [value_describe, role_of_opens_shortcode hcode hopens hcontrol]
    rfl
  · intro tag rest hopens htag hcontrol hother
    exact describe_eq_of_opens hopens htag hcontrol hother rawValue

/-- Keys that look alike: a paging key that is the tag of a shortcode in the one case and not in the
other, the name of a control and of a search, and names that are reserved because of an `s`. -/
theorem amount_by_key_lookalikes :
    let settings : Settings :=
      { reservedMark := 's', pagingKeys := ["eq_page".toList], topKey := "search_top".toList }
    let code : Shortcode := ⟨"eq_".toList, .eq, none⟩
    (settings.describe "search_top".toList "1".toList).value = [] ∧
    (settings.describe "EQ_page".toList "1".toList).value = [] ∧
    (settings.describe "status".toList "1".toList).value = [] ∧
    code ∈ Shortcode.table ∧
    Text.Opens "eq_page".toList code.tag "page".toList ∧
    "eq_page".toList ∉ settings.controlNames ∧
    (settings.describe "eq_page".toList "%31".toList).value =
      [.field "page".toList .eq none "1".toList] ∧
    Text.Opens "search__a_é".toList SearchMode.contains.tag "_a_é".toList ∧
    "search__a_é".toList ∉ settings.controlNames ∧
    "search__a_é".toList ∉ standard.controlNames ∧
    (settings.describe "search__a_é".toList "x".toList).value.map Descriptor.sql =
      [some "A.ToLower().Contains(@0)".toList, some "É.ToLower().Contains(@0)".toList] ∧
    settings.describe "search__a_é".toList "x".toList =
      standard.describe "search__a_é".toList "x".toList ∧
    (settings.describe "Swl_a".toList "x".toList).value =
      [.field "Swl_a".toList .eq none "x".toList] := by
  intro settings code
  -- up to their first underscores these keys are no tags
  have hplain : ∀ tag rest, Text.Opens "EQ_page".toList tag rest → tag ∉ keyTags :=
    forall_keyTags_not_prefix_iff_opens.mp (by decide)
  have hstatus : ∀ tag rest, Text.Opens "status".toList tag rest → tag ∉ keyTags :=
    forall_keyTags_not_prefix_iff_opens.mp (by decide)
  have hcapital : ∀ tag rest, Text.Opens "Swl_a".toList tag rest → tag ∉ keyTags :=
    forall_keyTags_not_prefix_iff_opens.mp (by decide)
  have hcode : code ∈ Shortcode.table := by decide
  have hopens : Text.Opens "eq_page".toList code.tag "page".toList :=
    ⟨"eq".toList, by decide, rfl, rfl⟩
  have hsearch : Text.Opens "search__a_é".toList SearchMode.contains.tag "_a_é".toList :=
    ⟨"search".toList, by decide, rfl, rfl⟩
  have hpage : "eq_page".toList ∉ settings.controlNames := by decide
  have hown : "search__a_é".toList ∉ settings.controlNames := by decide
  have hstandard : "search__a_é".toList ∉ standard.controlNames := by decide
  obtain ⟨-, hshortcode, -⟩ :=
    settings.amount_by_key standard "eq_page".toList "%31".toList
  obtain ⟨-, -, hfields, -, hsame⟩ :=
    settings.amount_by_key standard "search__a_é".toList "x".toList
  obtain ⟨-, -, -, hequal, -⟩ := settings.amount_by_key standard "Swl_a".toList "x".toList
  refine ⟨?_, ?_, ?_, hcode, hopens, hpage, ?_, hsearch, hown, hstandard, ?_,
    hsame _ _ hsearch (SearchMode.tag_mem_keyTags _) hown hstandard, hequal hcapital ?_⟩
  · exact (settings.amount_by_key standard _ _).1.mpr (Or.inr (Or.inl (by decide)))
  · exact (settings.amount_by_key standard _ _).1.mpr
      (Or.inr (Or.inr (Or.inr ⟨hplain, Or.inr ⟨"eq_page".toList, by decide, by decide⟩⟩)))
  · exact (settings.amount_by_key standard _ _).1.mpr
      (Or.inr (Or.inr (Or.inr ⟨hstatus, Or.inl rfl⟩)))
  · rw [hshortcode code hcode _ hopens hpage]
    decide +kernel
  · rw [hfields _ _ hsearch hown]
    decide +kernel
  · decide +kernel

end Settings

end FilterQuery
