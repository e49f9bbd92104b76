import FilterQuery.Proofs.Json.Keys
import FilterQuery.Proofs.Settings.Usable
import Mathlib.Data.List.Nodup

/-!
# Settings that are given lie over the standard ones

Any of the settings may be chosen and the others left out.  An object with the chosen ones, in any
order and with members of other names in between, gives the standard settings with these replaced,
however the text is laid out and its strings are escaped.

No setting may be given twice, and it does not matter with what values.  A text that could be read
all the same would give it once, and so would have other keys; but it has its keys in one way only.

* `chosen`: the settings that are chosen.
* `get_ofEntries_of_perm`: what is given is replaced, and nothing else.
* `not_spells_of_count`: a setting that is given twice.
* `load_overlays_standard`: a text that gives some settings, and one that gives a setting twice.
-/

namespace FilterQuery.Settings

open Json

variable {text : Text}

/-! ## The chosen settings -/

/-- The settings that are chosen, each with what it is set to. -/
def chosen (choice : (setting : Setting) → Option setting.Value) : List Entry :=
  Setting.all.filterMap fun setting => (choice setting).map (Entry.mk setting)

theorem mem_chosen {choice : (setting : Setting) → Option setting.Value} {entry : Entry} :
    entry ∈ chosen choice ↔ choice entry.setting = some entry.value := by
  obtain ⟨setting, value⟩ := entry
  rw [chosen, List.mem_filterMap]
  constructor
  · rintro ⟨other, -, hmap⟩
    obtain ⟨value', hvalue, heq⟩ := Option.map_eq_some_iff.mp hmap
    cases heq
    exact hvalue
  · exact fun h => ⟨setting, setting.mem_all, by rw [h, Option.map_some]⟩

theorem map_setting_chosen (choice : (setting : Setting) → Option setting.Value) :
    (chosen choice).map Entry.setting =
      Setting.all.filter fun setting => (choice setting).isSome := by
  rw [chosen, List.map_filterMap, ← List.filterMap_eq_filter]
  refine congrArg (List.filterMap · Setting.all) (funext fun setting => ?_)
  cases hchoice : choice setting with
  | none => simp [Option.guard, hchoice]
  | some value => simp [Option.guard, hchoice]

theorem nodup_chosen (choice : (setting : Setting) → Option setting.Value) :
    ((chosen choice).map Entry.setting).Nodup := by
  have hall : Setting.all.Nodup := by decide
  rw [map_setting_chosen]
  exact hall.filter _

/-- **What is given is replaced, and nothing else.** -/
theorem get_ofEntries_of_perm {choice : (setting : Setting) → Option setting.Value}
    {entries : List Entry} (h : entries.Perm (chosen choice)) (setting : Setting) :
    (ofEntries entries).get setting = (choice setting).getD (standard.get setting) := by
  have hnodup : (entries.map Entry.setting).Nodup :=
    (h.map Entry.setting).nodup_iff.mpr (nodup_chosen choice)
  cases hchoice : choice setting with
  | none =>
    refine get_putAll_of_notMem ?_ standard
    rw [(h.map Entry.setting).mem_iff, map_setting_chosen, List.mem_filter, hchoice]
    simp
  | some value =>
    have hmem : Entry.mk setting value ∈ chosen choice := mem_chosen.mpr hchoice
    exact get_putAll_of_mem hnodup (h.mem_iff.mpr hmem) standard

/-- Nothing is missing from the standard settings. -/
theorem standard_isUsable : standard.IsUsable :=
  firstEmpty?_eq_none_iff.mp rfl

/-! ## A setting that is given twice -/

theorem Member.Spells.isKeyed {member : Member} (h : member.Spells text) :
    IsKeyed member.key text := by
  cases member with
  | other key hother => exact h
  | given entry =>
    obtain ⟨keyText, valueText, hkey, hvalue, rfl⟩ := h
    exact ⟨keyText, valueText, hkey, hvalue.mono fun core => Json.Spells.isWellFormed, rfl⟩

theorem count_key (setting : Setting) (members : List Member) :
    (members.map Member.key).count setting.name =
      ((entriesOf members).map Entry.setting).count setting := by
  induction members with
  | nil => rfl
  | cons member others ih =>
    cases member with
    | given entry =>
      have hname : entry.setting.name = setting.name ↔ entry.setting = setting :=
        ⟨fun h => Setting.name_injective h, fun h => h ▸ rfl⟩
      rw [entriesOf_given, List.map_cons, List.map_cons, List.count_cons, List.count_cons, ih]
      simp only [Member.key, beq_iff_eq, hname]
    | other key h =>
      have hne : (Member.other key h).key ≠ setting.name := by
        intro hkey
        obtain rfl : key = setting.name := hkey
        rw [Setting.ofName?_name] at h
        cases h
      rw [entriesOf_other, List.map_cons, List.count_cons_of_ne hne, ih]

/-- A text that gives a setting twice stands for no settings. -/
theorem not_spells_of_count {setting : Setting} {keys : List Text}
    (h : Padded (Enclosed '\x7b' '\x7d' IsKeyed keys) text) (hcount : 2 ≤ keys.count setting.name)
    (settings : Settings) : ¬ settings.Spells text := by
  intro hspells
  cases hspells with
  | @byName members _ h' hnodup =>
    have hkeyed : Padded (Enclosed '\x7b' '\x7d' IsKeyed (members.map Member.key)) text := by
      refine h'.mono fun core ⟨inner, hinner, hcore⟩ => ⟨inner, ?_, hcore⟩
      exact (listed_map Member.key).mpr (hinner.mono fun member part => Member.Spells.isKeyed)
    rw [keys_unique h hkeyed, count_key] at hcount
    have hone := List.nodup_iff_count_le_one.mp hnodup setting
    omega
  | inOrder h' =>
    -- the text would begin with two brackets at once
    obtain ⟨_, _, -, -, hdrop⟩ := h.dropSpace_whole (by decide)
    obtain ⟨_, _, -, -, hdrop'⟩ := h'.dropSpace_whole (by decide)
    have hbracket := (List.cons.inj (hdrop.symm.trans hdrop')).1
    exact absurd hbracket (by decide)

/-! ## Loading -/

/-- **Settings that are given lie over the standard ones.**  Whatever settings are chosen, a text
that gives each of them once and no others, in any order and among members of other names, is loaded
as the standard settings with these replaced.  A text that gives a setting again is unreadable,
whatever the values are. -/
theorem load_overlays_standard :
    (∀ (choice : (setting : Setting) → Option setting.Value) (members : List Member) (text : Text),
      (∀ setting value, choice setting = some value → ¬ setting.IsEmpty value) →
      (entriesOf members).Perm (chosen choice) →
      Padded (Enclosed '\x7b' '\x7d' Member.Spells members) text →
      ∃ settings, load text = .ok settings ∧
        ∀ setting, settings.get setting = (choice setting).getD (standard.get setting)) ∧
    ∀ (setting : Setting) (keys : List Text) (text : Text),
      Padded (Enclosed '\x7b' '\x7d' IsKeyed keys) text → 2 ≤ keys.count setting.name →
      ∃ fault, load text = .error (.unreadable fault) := by
  constructor
  · intro choice members text hchoice hperm htext
    have hget := get_ofEntries_of_perm hperm
    have hnodup : ((entriesOf members).map Entry.setting).Nodup :=
      (hperm.map Entry.setting).nodup_iff.mpr (nodup_chosen choice)
    have husable : (ofEntries (entriesOf members)).IsUsable := by
      intro setting
      rw [hget setting]
      cases hvalue : choice setting with
      | none => exact standard_isUsable setting
      | some value => exact hchoice setting value hvalue
    exact ⟨_, load_of_isUsable (.byName htext hnodup) husable, hget⟩
  · intro setting keys text htext hcount
    exact exists_load_of_not_spells (not_spells_of_count htext hcount)

/-- The choice of one setting. -/
def only (entry : Entry) (setting : Setting) : Option setting.Value :=
  if h : entry.setting = setting then some (h ▸ entry.value) else none

/-- One setting between two members of one key that is no name, with an escape in its name; and a
setting that is given twice, once with an escape in its name, by values that it cannot have. -/
theorem load_overlays_standard_escaped :
    let text := "\x7b\"x\":null, \"page_size\\u005fkey\" :\"per_page\",\"x\":[]\x7d".toList
    let twice := "\x7b\"page_key\":null,\"page\\u005fkey\":[]\x7d".toList
    (∃ settings, load text = .ok settings ∧ settings.get .pageSizeKey = "per_page".toList ∧
      settings.get .pageKey = standard.get .pageKey) ∧
    ∃ fault, load twice = .error (.unreadable fault) := by
  intro text twice
  have hname : ∀ name, Padded (SpellsString .kept name) (Quoted.write name) := fun name =>
    .of_kind (Quoted.spellsString_write name)
  have hnull : Padded IsWellFormed "null".toList := .of_kind ⟨.null, rfl⟩
  have hempty : Padded IsWellFormed "[]".toList := .of_kind ⟨.array [], [], isSpacing_nil, rfl⟩
  have hspace : IsSpacing [' '] := by simp [IsSpacing, isSpace]
  have hunderscore : Quoted.Spells .kept ['_'] "\\u005f".toList :=
    .unit (by decide : Quoted.unit? '0' '0' '5' 'f' = some 0x5F) (Or.inr (by decide)) .nil
  have hescaped : ∀ front back, Quoted.Spells .kept (front ++ ['_'] ++ back)
      (front.flatMap Quoted.writeChar ++ "\\u005f".toList ++ back.flatMap Quoted.writeChar) :=
    fun front back => ((Quoted.spells_flatMap_writeChar front).append hunderscore).append
      (Quoted.spells_flatMap_writeChar back)
  constructor
  · let entry : Entry := ⟨.pageSizeKey, "per_page".toList⟩
    let given : Member := .given entry
    let other : Member := .other "x".toList (by decide)
    have hchoice : ∀ setting value, only entry setting = some value → ¬ setting.IsEmpty value := by
      intro setting value h
      rw [only] at h
      split at h
      case isTrue hsetting =>
        subst hsetting
        obtain rfl := Option.some.inj h
        exact List.cons_ne_nil _ _
      case isFalse => cases h
    have hfirst : other.Spells "\"x\":null".toList := ⟨_, _, hname "x".toList, hnull, rfl⟩
    have hgiven : given.Spells " \"page_size\\u005fkey\" :\"per_page\"".toList :=
      ⟨_, _, ⟨_, _, _, hspace, ⟨_, hescaped "page_size".toList "key".toList, rfl⟩, hspace, rfl⟩,
        hname "per_page".toList, rfl⟩
    have hlast : other.Spells "\"x\":[]".toList := ⟨_, _, hname "x".toList, hempty, rfl⟩
    have htext : Padded (Enclosed '\x7b' '\x7d' Member.Spells [other, given, other]) text :=
      .of_kind ⟨_, ⟨_, _, hfirst, ⟨_, _, hgiven, hlast, rfl⟩, rfl⟩, rfl⟩
    obtain ⟨settings, hload, hget⟩ :=
      load_overlays_standard.1 (only entry) [other, given, other] text hchoice (.refl _) htext
    exact ⟨settings, hload, hget .pageSizeKey, hget .pageKey⟩
  · have hfirst : IsKeyed "page_key".toList "\"page_key\":null".toList :=
      ⟨_, _, hname "page_key".toList, hnull, rfl⟩
    have hlast : IsKeyed "page_key".toList "\"page\\u005fkey\":[]".toList :=
      ⟨_, _, .of_kind ⟨_, hescaped "page".toList "key".toList, rfl⟩, hempty, rfl⟩
    have htwice : Padded (Enclosed '\x7b' '\x7d' IsKeyed
        ["page_key".toList, "page_key".toList]) twice :=
      .of_kind ⟨_, ⟨_, _, hfirst, hlast, rfl⟩, rfl⟩
    exact load_overlays_standard.2 .pageKey _ twice htwice (by decide)

end FilterQuery.Settings
