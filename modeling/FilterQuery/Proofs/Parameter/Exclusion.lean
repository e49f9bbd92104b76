import FilterQuery.Proofs.Filter.Extension
import FilterQuery.Proofs.Parameter.Roles

/-!
# Controls stay out of the filter

A key controls the query when it is the name of a control, when it opens with the reserved mark, or
when it is a paging key, in whatever case.  The first is asked before anything else, so the name of
a control never becomes a condition.  The other two are asked only of keys that open with no tag: a
tag in front lets any property be asked for, even one whose name is reserved.

What remains is a key that opens with a tag and is reserved as a whole.  It does become a condition,
and only settings that have been chosen for it can reserve such a key.  All others spare the tags.

* `Settings.SparesTags`: settings under which no key with a tag is reserved or a paging key.
* `Settings.value_describe_of_isControl`: what can become of a control.
* `Settings.SparesTags.value_describe`: nothing does, where the tags are spared.
* `Settings.controls_stay_out`: all of it together.
-/

namespace FilterQuery.Settings

variable {settings : Settings} {key rawValue tag : Text}

/-- No tag opens with the reserved mark, and no paging key opens with a tag, in whatever case. -/
structure SparesTags (settings : Settings) : Prop where
  mark : ∀ tag ∈ keyTags, tag.head? ≠ some settings.reservedMark
  paging : ∀ tag ∈ keyTags, ∀ paging ∈ settings.pagingKeys,
    ¬ tag.map Char.toLower <+: paging.map Char.toLower

instance (settings : Settings) : Decidable settings.SparesTags :=
  decidable_of_iff
    ((∀ tag ∈ keyTags, tag.head? ≠ some settings.reservedMark) ∧
      ∀ tag ∈ keyTags, ∀ paging ∈ settings.pagingKeys,
        ¬ tag.map Char.toLower <+: paging.map Char.toLower)
    ⟨fun h => ⟨h.1, h.2⟩, fun h => ⟨h.mark, h.paging⟩⟩

theorem standard_sparesTags : standard.SparesTags := by
  decide +kernel

/-- **A control becomes nothing unless it opens with a tag**, and then it is not the name of a
control. -/
theorem value_describe_of_isControl (h : settings.isControl key = true) (rawValue : Text) :
    (settings.describe key rawValue).value = [] ∨
      key ∉ settings.controlNames ∧ ∃ tag ∈ keyTags, tag <+: key := by
  rw [value_describe]
  have hrole := settings.hasRole_role key
  generalize settings.role key = role at hrole
  cases hrole with
  | unnamed | control | reserved => exact Or.inl rfl
  | condition hcontrol hcode hkey =>
    exact Or.inr ⟨hcontrol, _, Shortcode.tag_mem_keyTags hcode, _, hkey⟩
  | search hcontrol hkey => exact Or.inr ⟨hcontrol, _, SearchMode.tag_mem_keyTags _, _, hkey⟩
  | equality _ _ hnot => exact absurd h (by simp [hnot])

namespace SparesTags

theorem isReserved_eq_false (h : settings.SparesTags) (htag : tag ∈ keyTags) (hkey : tag <+: key) :
    settings.isReserved key = false := by
  obtain ⟨rest, rfl⟩ := hkey
  have hhead : (tag ++ rest).head? = tag.head? :=
    List.head?_append_of_ne_nil _ (isTag_of_mem_keyTags tag htag).ne_nil
  rw [isReserved, hhead, beq_eq_false_iff_ne]
  exact h.mark tag htag

theorem isPagingKey_eq_false (h : settings.SparesTags) (htag : tag ∈ keyTags) (hkey : tag <+: key) :
    settings.isPagingKey key = false := by
  rw [isPagingKey, List.any_eq_false]
  intro paging hpaging hsame
  have hletters : paging.map Char.toLower = key.map Char.toLower := by
    simpa [sameLetters] using hsame
  refine h.paging tag htag paging hpaging ?_
  rw [hletters]
  exact hkey.map Char.toLower

/-- **Where the tags are spared, no control becomes anything.** -/
theorem value_describe (h : settings.SparesTags) (hcontrol : settings.isControl key = true)
    (rawValue : Text) : (settings.describe key rawValue).value = [] := by
  rcases value_describe_of_isControl hcontrol rawValue with hnil | ⟨hname, tag, htag, hkey⟩
  · exact hnil
  · have hnamed : settings.isNamedControl key = false := by
      rwa [Bool.eq_false_iff, Ne, isNamedControl_iff]
    rw [isControl, hnamed, h.isReserved_eq_false htag hkey, h.isPagingKey_eq_false htag hkey]
      at hcontrol
    exact absurd hcontrol (by decide)

end SparesTags

/-- **Controls stay out of the filter.**  The name of a control never becomes a condition, whatever
it looks like.  Any other control that does opens with the tag of a shortcode or of a search.  Under
settings that spare these tags, as the standard ones do, no control becomes a condition, and
parameters that are all controls send no filter. -/
theorem controls_stay_out (settings : Settings) :
    (∀ key rawValue, settings.isNamedControl key = true →
      (settings.describe key rawValue).value = []) ∧
    (∀ key rawValue, settings.isControl key = true →
      (settings.describe key rawValue).value ≠ [] →
      settings.isNamedControl key = false ∧ ∃ tag ∈ keyTags, tag <+: key) ∧
    (settings.SparesTags →
      (∀ key rawValue, settings.isControl key = true →
        (settings.describe key rawValue).value = []) ∧
      ∀ params url, (∀ param ∈ params, settings.isControl param.1 = true) →
        ((Filter.params params).extension settings url).value = []) ∧
    standard.SparesTags := by
  refine ⟨fun key rawValue => value_describe_of_isNamedControl, ?_, ?_, standard_sparesTags⟩
  · intro key rawValue hcontrol hne
    obtain ⟨hname, htag⟩ := (value_describe_of_isControl hcontrol rawValue).resolve_left hne
    refine ⟨?_, htag⟩
    rwa [Bool.eq_false_iff, Ne, isNamedControl_iff]
  · intro hspares
    refine ⟨fun key rawValue hcontrol => hspares.value_describe hcontrol rawValue, ?_⟩
    intro params url hparams
    rw [Filter.value_extension_eq_nil_iff, value_describeAll, List.flatMap_eq_nil_iff]
    exact fun param hmem => hspares.value_describe (hparams param hmem) param.2

/-- A control that is named like a condition, a paging key that opens with a tag and does become a
condition, and under the standard settings parameters that are all controls. -/
theorem controls_stay_out_lookalikes :
    let settings : Settings :=
      { pagingKeys := ["EQ_page".toList, "limit".toList], topKey := "swl_top".toList }
    let params := [("$top".toList, "1".toList), ("PAGE".toList, "eq_a".toList), ("$".toList, [])]
    settings.isNamedControl "swl_top".toList = true ∧
    (settings.describe "swl_top".toList "5".toList).value = [] ∧
    settings.isControl "eq_page".toList = true ∧
    (settings.describe "eq_page".toList "2".toList).value ≠ [] ∧
    settings.isNamedControl "eq_page".toList = false ∧
    (∃ tag ∈ keyTags, tag <+: "eq_page".toList) ∧
    standard.SparesTags ∧
    (∀ param ∈ params, standard.isControl param.1 = true) ∧
    ((Filter.params params).extension standard "/api".toList).value = [] := by
  intro settings params
  have hname : settings.isNamedControl "swl_top".toList = true := by decide +kernel
  have hpaging : settings.isControl "eq_page".toList = true := by decide +kernel
  have hmade : (settings.describe "eq_page".toList "2".toList).value ≠ [] := by decide +kernel
  have hparams : ∀ param ∈ params, standard.isControl param.1 = true := by decide +kernel
  obtain ⟨hnamed, htagged, -, hstandard⟩ := settings.controls_stay_out
  obtain ⟨-, -, hspared, -⟩ := standard.controls_stay_out
  obtain ⟨hnot, htag⟩ := htagged _ _ hpaging hmade
  exact ⟨hname, hnamed _ _ hname, hpaging, hmade, hnot, htag, hstandard, hparams,
    (hspared hstandard).2 params _ hparams⟩

end FilterQuery.Settings
