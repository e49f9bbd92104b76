import FilterQuery.Parameter
import FilterQuery.Proofs.Shortcode.Split

/-!
# What a key says

The role of a key is settled by asking in turn whether it is empty, is the name of a control, opens
with the tag of a shortcode or of a search, or is reserved.  `Settings.HasRole` says of each role
which keys have it, with all that the earlier questions have ruled out, so that nobody else has to
go through them again.  The tags of shortcodes and those of searches are all different, so the two
are not in each other's way.

* `keyTags`: all tags that a key can open with.
* `SearchMode.split?_eq_some_iff`: how the key of a search is split.
* `Settings.HasRole`, `Settings.role_eq_iff`: the keys that play a role.
* `Settings.value_describe`, `Settings.value_describeAll`: what is contributed, by the role.
-/

namespace FilterQuery

/-! ## Tags -/

/-- The tags that a key can open with: those of shortcodes and those of searches. -/
def keyTags : List Text :=
  Shortcode.table.map Shortcode.tag ++ ["search_".toList, "searchsw_".toList]

theorem isTag_of_mem_keyTags : ∀ tag ∈ keyTags, Text.IsTag tag := by
  unfold Text.IsTag
  decide

theorem Shortcode.tag_mem_keyTags {code : Shortcode} (h : code ∈ table) : code.tag ∈ keyTags :=
  List.mem_append_left _ (List.mem_map_of_mem h)

namespace SearchMode

variable {mode : SearchMode} {key fields : Text}

theorem tag_mem_keyTags (mode : SearchMode) : mode.tag ∈ keyTags := by
  cases mode <;> exact List.mem_append_right _ (by decide)

theorem isTag_tag (mode : SearchMode) : Text.IsTag mode.tag :=
  isTag_of_mem_keyTags _ mode.tag_mem_keyTags

theorem mem_all (mode : SearchMode) : mode ∈ all := by
  cases mode <;> decide

theorem eq_of_tag_eq : ∀ mode ∈ all, ∀ other ∈ all, mode.tag = other.tag → mode = other := by
  decide

/-- A key is split into a mode and a text of fields exactly when it is the tag of the one and the
other. -/
theorem split?_eq_some_iff : split? key = some (mode, fields) ↔ mode.tag ++ fields = key :=
  (Text.findSome?_tag_eq_some_iff (fun mode _ => mode.isTag_tag) eq_of_tag_eq).trans
    (and_iff_right mode.mem_all)

theorem split?_eq_none_iff : split? key = none ↔ ∀ mode ∈ all, ¬ mode.tag <+: key :=
  Text.findSome?_tag_eq_none_iff

theorem tag_ne_tag : ∀ mode ∈ all, ∀ code ∈ Shortcode.table, code.tag ≠ mode.tag := by
  decide

/-- The key of a search opens with no shortcode. -/
theorem shortcode_split?_eq_none (h : mode.tag ++ fields = key) : Shortcode.split? key = none := by
  rw [Shortcode.split?_eq_none_iff]
  rintro code hmem ⟨property, hkey⟩
  have hcode : Text.IsTag code.tag := isTag_of_mem_keyTags _ (Shortcode.tag_mem_keyTags hmem)
  have hsame := hcode.append_inj mode.isTag_tag (hkey.trans h.symm)
  exact tag_ne_tag mode mode.mem_all code hmem hsame.1

end SearchMode

/-- A key opens with no tag exactly when neither a shortcode nor a search is found in it. -/
theorem forall_keyTags_not_prefix_iff {key : Text} :
    (∀ tag ∈ keyTags, ¬ tag <+: key) ↔
      Shortcode.split? key = none ∧ SearchMode.split? key = none := by
  rw [Shortcode.split?_eq_none_iff, SearchMode.split?_eq_none_iff, keyTags, List.forall_mem_append,
    List.forall_mem_map]
  refine and_congr_right fun _ => ⟨fun h mode _ => ?_, fun h => ?_⟩
  · cases mode with
    | contains => exact h _ List.mem_cons_self
    | startsWith => exact h _ (List.mem_cons_of_mem _ List.mem_cons_self)
  · rw [List.forall_mem_cons, List.forall_mem_singleton]
    exact ⟨h .contains (SearchMode.mem_all _), h .startsWith (SearchMode.mem_all _)⟩

/-! ## Roles -/

namespace Settings

variable {settings : Settings} {key : Text} {role : Role}

/-- What makes a key play a role. -/
inductive HasRole (settings : Settings) (key : Text) : Role → Prop
  | unnamed (h : key = []) : HasRole settings key .unnamed
  | control (hne : key ≠ []) (h : key ∈ settings.controlNames) : HasRole settings key .control
  | condition {code : Shortcode} {property : Text} (hcontrol : key ∉ settings.controlNames)
      (hcode : code ∈ Shortcode.table) (hkey : code.tag ++ property = key) :
      HasRole settings key (.condition code property)
  | search {mode : SearchMode} {fields : Text} (hcontrol : key ∉ settings.controlNames)
      (hkey : mode.tag ++ fields = key) : HasRole settings key (.search mode fields)
  | reserved (hne : key ≠ []) (hcontrol : key ∉ settings.controlNames)
      (htag : ∀ tag ∈ keyTags, ¬ tag <+: key) (h : settings.isControl key = true) :
      HasRole settings key .reserved
  | equality (hne : key ≠ []) (htag : ∀ tag ∈ keyTags, ¬ tag <+: key)
      (h : settings.isControl key = false) : HasRole settings key .equality

/-- A key that opens with a tag is not empty. -/
theorem ne_nil_of_tag {tag rest : Text} (htag : tag ∈ keyTags) (h : tag ++ rest = key) :
    key ≠ [] := by
  rw [← h]
  exact List.append_ne_nil_of_left_ne_nil (isTag_of_mem_keyTags tag htag).ne_nil rest

theorem hasRole_role (settings : Settings) (key : Text) :
    settings.HasRole key (settings.role key) := by
  rw [Settings.role]
  split
  case isTrue hempty => exact .unnamed (List.isEmpty_iff.mp hempty)
  case isFalse hne =>
  rw [List.isEmpty_iff] at hne
  split
  case isTrue hcontrol => exact .control hne (isNamedControl_iff.mp hcontrol)
  case isFalse hcontrol =>
  rw [isNamedControl_iff] at hcontrol
  split
  case h_1 hsplit =>
    obtain ⟨hmem, hkey⟩ := Shortcode.split?_eq_some_iff.mp hsplit
    exact .condition hcontrol hmem hkey
  case h_2 hsplit => exact .search hcontrol (SearchMode.split?_eq_some_iff.mp hsplit)
  case h_3 hcode hsearch =>
    have htag := forall_keyTags_not_prefix_iff.mpr ⟨hcode, hsearch⟩
    split
    case isTrue h => exact .reserved hne hcontrol htag h
    case isFalse h => exact .equality hne htag (by simpa using h)

/-- **A key plays just one role**, the one that is found. -/
theorem role_eq_iff : settings.role key = role ↔ settings.HasRole key role := by
  refine ⟨fun h => h ▸ settings.hasRole_role key, fun h => ?_⟩
  have hnamed : ∀ {key : Text}, key ∉ settings.controlNames →
      ¬ settings.isNamedControl key = true := fun h => by rwa [isNamedControl_iff]
  cases h with
  | unnamed h =>
    subst h
    rfl
  | control hne h =>
    rw [Settings.role, if_neg (by rwa [List.isEmpty_iff]), if_pos (isNamedControl_iff.mpr h)]
  | condition hcontrol hcode hkey =>
    have hne := ne_nil_of_tag (Shortcode.tag_mem_keyTags hcode) hkey
    rw [Settings.role, if_neg (by rwa [List.isEmpty_iff]), if_neg (hnamed hcontrol),
      Shortcode.split?_eq_some_iff.mpr ⟨hcode, hkey⟩]
  | search hcontrol hkey =>
    have hne := ne_nil_of_tag (SearchMode.tag_mem_keyTags _) hkey
    rw [Settings.role, if_neg (by rwa [List.isEmpty_iff]), if_neg (hnamed hcontrol),
      SearchMode.shortcode_split?_eq_none hkey, SearchMode.split?_eq_some_iff.mpr hkey]
  | reserved hne hcontrol htag h =>
    obtain ⟨hcode, hsearch⟩ := forall_keyTags_not_prefix_iff.mp htag
    rw [Settings.role, if_neg (by rwa [List.isEmpty_iff]), if_neg (hnamed hcontrol), hcode, hsearch]
    exact if_pos h
  | equality hne htag h =>
    obtain ⟨hcode, hsearch⟩ := forall_keyTags_not_prefix_iff.mp htag
    have hcontrol : settings.isNamedControl key = false := by
      rw [isControl, Bool.or_eq_false_iff, Bool.or_eq_false_iff] at h
      exact h.1.1
    rw [Settings.role, if_neg (by rwa [List.isEmpty_iff]), if_neg (by simp [hcontrol]), hcode,
      hsearch]
    exact if_neg (by simp [h])

/-! ## What is contributed -/

theorem value_describe (settings : Settings) (key rawValue : Text) :
    (settings.describe key rawValue).value =
      (settings.role key).descriptors key (Percent.decode rawValue) := rfl

/-- The descriptors of parameters are those of each of them, in their order. -/
theorem value_describeAll (settings : Settings) (params : List (Text × Text)) :
    (settings.describeAll params).value =
      params.flatMap fun param => (settings.describe param.1 param.2).value := by
  induction params with
  | nil => rfl
  | cons param others ih =>
    rw [describeAll, Traced.value_bind, Traced.value_bind, Traced.value_pure, ih, List.flatMap_cons]

/-- A control makes no descriptor, whatever its name looks like. -/
theorem value_describe_of_isNamedControl {rawValue : Text}
    (h : settings.isNamedControl key = true) : (settings.describe key rawValue).value = [] := by
  rw [value_describe, role]
  by_cases hkey : key.isEmpty
  · rw [if_pos hkey]
    rfl
  · rw [if_neg hkey, if_pos h]
    rfl

end Settings

end FilterQuery
