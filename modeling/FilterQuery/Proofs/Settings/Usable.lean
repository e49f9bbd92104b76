import FilterQuery.Proofs.Settings.Reading

/-!
# Settings that cannot be used

A text may stand for settings that leave a parameter without a name.  They are read, but not given:
the failure names the first such setting, in an order of its own in which the paging keys come last.
The text has no part in that order, be it an object or an array.

So loading has three outcomes.  A text that stands for no settings is unreadable, whatever names in
it are empty; one that stands for usable settings gives them; any other is blamed on one setting.

* `IsBlamed`: the setting that a failure names.
* `load_eq_ok_iff`, `load_eq_unusable_iff`, `load_eq_unreadable_iff`: the three outcomes.
* `load_blames_first`: what each of them says about the text.
-/

namespace FilterQuery.Settings

variable {settings : Settings} {setting : Setting} {text : Text}

/-! ## The first empty setting -/

/-- No parameter is left without a name. -/
def IsUsable (settings : Settings) : Prop :=
  ∀ setting : Setting, ¬ setting.IsEmpty (settings.get setting)

theorem exists_isEmpty_iff :
    (∃ setting : Setting, setting.IsEmpty (settings.get setting)) ↔
      [] ∈ settings.controlNames ∨ [] ∈ settings.pagingKeys := by
  constructor
  · rintro ⟨setting, hempty⟩
    cases setting with
    | reservedMark => exact hempty.elim
    | pagingKeys => exact Or.inr hempty
    | pageKey | pageSizeKey | orderByKey | orderByDescKey | topKey | skipKey =>
      have hnil : _ = [] := hempty
      refine Or.inl ?_
      rw [← hnil]
      simp [controlNames, get]
  · rintro (hm | hm)
    · simp only [controlNames, List.mem_cons, List.not_mem_nil, or_false] at hm
      rcases hm with hm | hm | hm | hm | hm | hm
      · exact ⟨.pageKey, hm.symm⟩
      · exact ⟨.pageSizeKey, hm.symm⟩
      · exact ⟨.orderByKey, hm.symm⟩
      · exact ⟨.orderByDescKey, hm.symm⟩
      · exact ⟨.topKey, hm.symm⟩
      · exact ⟨.skipKey, hm.symm⟩
    · exact ⟨.pagingKeys, hm⟩

theorem isUsable_iff :
    settings.IsUsable ↔ [] ∉ settings.controlNames ∧ [] ∉ settings.pagingKeys := by
  rw [IsUsable, ← not_exists, exists_isEmpty_iff, not_or]

/-- The order in which settings are blamed. -/
def blameOrder : List Setting :=
  [.pageKey, .pageSizeKey, .orderByKey, .orderByDescKey, .topKey, .skipKey, .pagingKeys]

/-- The setting leaves a parameter without a name, and none that is blamed before it does. -/
def IsBlamed (settings : Settings) (setting : Setting) : Prop :=
  ∃ before after, blameOrder = before ++ setting :: after ∧
    setting.IsEmpty (settings.get setting) ∧
    ∀ other ∈ before, ¬ other.IsEmpty (settings.get other)

theorem firstEmpty?_eq_some_iff :
    settings.firstEmpty? = some setting ↔ settings.IsBlamed setting := by
  have horder : Setting.named ++ [Setting.pagingKeys] = blameOrder := rfl
  rw [firstEmpty?, horder, List.find?_eq_some_iff_append, isEmpty_eq_true_iff]
  constructor
  · rintro ⟨hempty, before, after, horder, hbefore⟩
    refine ⟨before, after, horder, hempty, fun other hm hother => ?_⟩
    have hfalse := hbefore other hm
    rw [isEmpty_eq_true_iff.mpr hother] at hfalse
    cases hfalse
  · rintro ⟨before, after, horder, hempty, hbefore⟩
    refine ⟨hempty, before, after, horder, fun other hm => ?_⟩
    rw [Bool.not_eq_true', Bool.eq_false_iff]
    exact fun hother => hbefore other hm (isEmpty_eq_true_iff.mp hother)

theorem firstEmpty?_eq_none_iff : settings.firstEmpty? = none ↔ settings.IsUsable := by
  rw [firstEmpty?, List.find?_eq_none]
  constructor
  · intro h setting hempty
    cases setting with
    | reservedMark => exact hempty
    | pagingKeys | pageKey | pageSizeKey | orderByKey | orderByDescKey | topKey | skipKey =>
      exact h _ (by decide) (isEmpty_eq_true_iff.mpr hempty)
  · exact fun h setting _ hempty => h setting (isEmpty_eq_true_iff.mp hempty)

theorem check_eq_ok_iff : settings.check = .ok () ↔ settings.IsUsable := by
  rw [← firstEmpty?_eq_none_iff, check]
  split
  case h_1 setting h => simp [h]
  case h_2 h => simp [h]

/-! ## The outcomes -/

/-- What is wrong with a setting that is blamed, in words. -/
def complaint (setting : Setting) : Text :=
  if setting = .pagingKeys then " must not contain empty entries".toList
  else " must not be empty".toList

theorem message_emptyReason (setting : Setting) :
    (Failure.unusable setting.emptyReason).message =
      "invalid configuration: ".toList ++ (setting.name ++ complaint setting) := by
  cases setting <;> decide

theorem load_of_isUsable (h : settings.Spells text) (hu : settings.IsUsable) :
    load text = .ok settings := by
  rw [load, ofJson_eq_ok_iff.mpr h]
  dsimp only
  rw [check_eq_ok_iff.mpr hu]

theorem load_of_isBlamed (h : settings.Spells text) (hb : settings.IsBlamed setting) :
    load text = .error (.unusable setting.emptyReason) := by
  rw [load, ofJson_eq_ok_iff.mpr h]
  dsimp only
  rw [check, firstEmpty?_eq_some_iff.mpr hb]

theorem exists_load_of_not_spells (h : ∀ settings : Settings, ¬ settings.Spells text) :
    ∃ fault, load text = .error (.unreadable fault) := by
  rw [load]
  cases hread : ofJson text with
  | error fault => exact ⟨fault, rfl⟩
  | ok settings => exact absurd (ofJson_eq_ok_iff.mp hread) (h settings)

/-- Settings are usable, or one of them is to blame. -/
theorem isUsable_or_isBlamed (settings : Settings) :
    settings.IsUsable ∨ ∃ setting, settings.IsBlamed setting := by
  cases hempty : settings.firstEmpty? with
  | none => exact Or.inl (firstEmpty?_eq_none_iff.mp hempty)
  | some setting => exact Or.inr ⟨setting, firstEmpty?_eq_some_iff.mp hempty⟩

/-- **Loading has three outcomes**, one for each kind of text. -/
theorem load_cases (text : Text) :
    (∃ settings : Settings, settings.Spells text ∧ settings.IsUsable ∧ load text = .ok settings) ∨
    (∃ (settings : Settings) (setting : Setting), settings.Spells text ∧
      settings.IsBlamed setting ∧ load text = .error (.unusable setting.emptyReason)) ∨
    (∀ settings : Settings, ¬ settings.Spells text) ∧
      ∃ fault, load text = .error (.unreadable fault) := by
  by_cases h : ∃ settings : Settings, settings.Spells text
  · obtain ⟨settings, h⟩ := h
    rcases settings.isUsable_or_isBlamed with hu | ⟨setting, hb⟩
    · exact Or.inl ⟨settings, h, hu, load_of_isUsable h hu⟩
    · exact Or.inr (Or.inl ⟨settings, setting, h, hb, load_of_isBlamed h hb⟩)
  · have hnone := not_exists.mp h
    exact Or.inr (Or.inr ⟨hnone, exists_load_of_not_spells hnone⟩)

theorem load_eq_ok_iff : load text = .ok settings ↔ settings.Spells text ∧ settings.IsUsable := by
  refine ⟨fun h => ?_, fun h => load_of_isUsable h.1 h.2⟩
  rcases load_cases text with ⟨settings', hs, hu, hload⟩ | ⟨_, _, -, -, hload⟩ | ⟨-, _, hload⟩
  · obtain rfl : settings' = settings := Except.ok.inj (hload.symm.trans h)
    exact ⟨hs, hu⟩
  · cases hload.symm.trans h
  · cases hload.symm.trans h

theorem load_eq_unusable_iff {reason : Text} :
    load text = .error (.unusable reason) ↔
      ∃ (settings : Settings) (setting : Setting), settings.Spells text ∧
        settings.IsBlamed setting ∧ setting.emptyReason = reason := by
  constructor
  · intro h
    rcases load_cases text with
      ⟨_, -, -, hload⟩ | ⟨settings, setting, hs, hb, hload⟩ | ⟨-, _, hload⟩
    · cases hload.symm.trans h
    · have hreason := Failure.unusable.inj (Except.error.inj (hload.symm.trans h))
      exact ⟨settings, setting, hs, hb, hreason⟩
    · cases hload.symm.trans h
  · rintro ⟨settings, setting, hs, hb, rfl⟩
    exact load_of_isBlamed hs hb

theorem load_eq_unreadable_iff :
    (∃ fault, load text = .error (.unreadable fault)) ↔
      ∀ settings : Settings, ¬ settings.Spells text := by
  refine ⟨?_, exists_load_of_not_spells⟩
  rintro ⟨fault, h⟩
  rcases load_cases text with ⟨_, -, -, hload⟩ | ⟨_, _, -, -, hload⟩ | ⟨hnone, -⟩
  · cases hload.symm.trans h
  · cases hload.symm.trans h
  · exact hnone

/-- **Loading gives usable settings, or blames the right one.**  What it gives has no empty name and
passes the check.  A setting is blamed exactly where the text can be read and a name is empty, and
it is the first one in the order of blame, wherever it stands in the text.  Everything else is
unreadable and keeps its fault, whatever names are empty as well. -/
theorem load_blames_first (text : Text) :
    (∀ settings, load text = .ok settings →
      [] ∉ settings.controlNames ∧ [] ∉ settings.pagingKeys ∧ settings.check = .ok ()) ∧
    ((∃ reason, load text = .error (.unusable reason)) ↔
      ∃ settings : Settings, settings.Spells text ∧
        ([] ∈ settings.controlNames ∨ [] ∈ settings.pagingKeys)) ∧
    (∀ reason, load text = .error (.unusable reason) →
      ∃ (settings : Settings) (setting : Setting), settings.Spells text ∧
        settings.IsBlamed setting ∧ (Failure.unusable reason).message =
          "invalid configuration: ".toList ++ (setting.name ++ complaint setting)) ∧
    (∀ failure, load text = .error failure → (∀ reason, failure ≠ .unusable reason) →
      ∃ fault, failure = .unreadable fault ∧ failure.fault? = some fault) ∧
    ((∃ fault, load text = .error (.unreadable fault)) ↔
      ∀ settings : Settings, ¬ settings.Spells text) := by
  refine ⟨?_, ?_, ?_, ?_, load_eq_unreadable_iff⟩
  · intro settings h
    have hu := (load_eq_ok_iff.mp h).2
    obtain ⟨hnames, hkeys⟩ := isUsable_iff.mp hu
    exact ⟨hnames, hkeys, check_eq_ok_iff.mpr hu⟩
  · constructor
    · rintro ⟨reason, h⟩
      obtain ⟨settings, setting, hs, hb, -⟩ := load_eq_unusable_iff.mp h
      obtain ⟨-, -, -, hempty, -⟩ := hb
      exact ⟨settings, hs, exists_isEmpty_iff.mp ⟨setting, hempty⟩⟩
    · rintro ⟨settings, hs, hempty⟩
      rcases settings.isUsable_or_isBlamed with hu | ⟨setting, hb⟩
      · obtain ⟨hnames, hkeys⟩ := isUsable_iff.mp hu
        exact absurd hempty (not_or.mpr ⟨hnames, hkeys⟩)
      · exact ⟨_, load_of_isBlamed hs hb⟩
  · intro reason h
    obtain ⟨settings, setting, hs, hb, rfl⟩ := load_eq_unusable_iff.mp h
    exact ⟨settings, setting, hs, hb, message_emptyReason setting⟩
  · intro failure h hne
    rcases load_cases text with ⟨_, -, -, hload⟩ | ⟨_, _, -, -, hload⟩ | ⟨-, fault, hload⟩
    · cases hload.symm.trans h
    · exact absurd (Except.error.inj (hload.symm.trans h)).symm (hne _)
    · obtain rfl := Except.error.inj (hload.symm.trans h)
      exact ⟨fault, rfl, rfl⟩

/-- Settings in order, of which some are given; two names that are empty, with the one that is
blamed behind the other; and a text that breaks off behind an empty name. -/
theorem load_blames_first_out_of_order :
    let short := "[\"@\",[]]".toList
    let empty := "\x7b\"skip_key\":\"\",\"page_size_key\":\"\"\x7d".toList
    let broken := "\x7b\"top_key\":\"\",".toList
    let given : Settings := { reservedMark := '@', pagingKeys := [] }
    (load short = .ok given ∧ [] ∉ given.controlNames ∧ [] ∉ given.pagingKeys ∧
      given.check = .ok ()) ∧
    (load empty = .error (.unusable "page_size_key must not be empty".toList) ∧
      ∃ (settings : Settings) (setting : Setting), settings.Spells empty ∧
        settings.IsBlamed setting ∧
        "invalid configuration: page_size_key must not be empty".toList =
          "invalid configuration: ".toList ++ (setting.name ++ complaint setting)) ∧
    load broken = .error (.unreadable .ended) ∧
      ∃ fault, Failure.unreadable .ended = .unreadable fault ∧
        (Failure.unreadable .ended).fault? = some fault := by
  intro short empty broken given
  have hshort : load short = .ok given := by rfl
  have hempty : load empty = .error (.unusable "page_size_key must not be empty".toList) := by rfl
  have hbroken : load broken = .error (.unreadable .ended) := by rfl
  exact ⟨⟨hshort, (load_blames_first short).1 given hshort⟩,
    ⟨hempty, (load_blames_first empty).2.2.1 _ hempty⟩,
    hbroken, (load_blames_first broken).2.2.2.1 _ hbroken (by simp)⟩

end FilterQuery.Settings
