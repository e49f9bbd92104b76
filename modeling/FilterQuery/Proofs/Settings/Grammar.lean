import FilterQuery.Proofs.Json.Grammar
import FilterQuery.Settings.Basic

/-!
# The grammar of settings

A text stands for settings in one of two ways.  As an object it gives some of them by name, each at
most once, with members of other names in between.  As an array it gives the first few in their
order.  Whatever is not given keeps its standard value.

Each value may be written in any way that JSON has for it, and so may a name.  The member of another
name may have any value at all, as long as it is well-formed.

* `Setting.Value`, `Settings.get`, `Settings.put`: a setting by itself.
* `Settings.ofEntries`: the standard settings with some of them given.
* `Settings.Spells`: the texts that stand for settings.
-/

namespace FilterQuery

open Json

/-! ## One setting -/

namespace Setting

/-- What a setting can be set to. -/
def Value : Setting → Type
  | .reservedMark => Char
  | .pagingKeys => List Text
  | .pageKey | .pageSizeKey | .orderByKey | .orderByDescKey | .topKey | .skipKey => Text

/-- The JSON value for what a setting is set to. -/
def json : (setting : Setting) → setting.Value → Json
  | .reservedMark, mark => .string [mark]
  | .pagingKeys, keys => .array (keys.map .string)
  | .pageKey, name | .pageSizeKey, name | .orderByKey, name | .orderByDescKey, name
  | .topKey, name | .skipKey, name => .string name

/-- A parameter is left without a name. -/
def IsEmpty : (setting : Setting) → setting.Value → Prop
  | .reservedMark, _ => False
  | .pagingKeys, (keys : List Text) => [] ∈ keys
  | .pageKey, name | .pageSizeKey, name | .orderByKey, name | .orderByDescKey, name
  | .topKey, name | .skipKey, name => name = []

theorem mem_all (setting : Setting) : setting ∈ all := by
  cases setting <;> decide

theorem name_of_ofName? {name : Text} {setting : Setting} (h : ofName? name = some setting) :
    setting.name = name := by
  simpa using List.find?_some h

theorem name_injective {setting other : Setting} (h : setting.name = other.name) :
    setting = other := by
  have hsame : ofName? setting.name = ofName? other.name := by rw [h]
  rw [ofName?_name, ofName?_name] at hsame
  exact Option.some.inj hsame

end Setting

namespace Settings

/-- What a setting is set to. -/
def get (settings : Settings) : (setting : Setting) → setting.Value
  | .reservedMark => settings.reservedMark
  | .pagingKeys => settings.pagingKeys
  | .pageKey => settings.pageKey
  | .pageSizeKey => settings.pageSizeKey
  | .orderByKey => settings.orderByKey
  | .orderByDescKey => settings.orderByDescKey
  | .topKey => settings.topKey
  | .skipKey => settings.skipKey

/-- Settings in which one of them is set to something else. -/
def put (settings : Settings) : (setting : Setting) → setting.Value → Settings
  | .reservedMark, mark => { settings with reservedMark := mark }
  | .pagingKeys, keys => { settings with pagingKeys := keys }
  | .pageKey, name => settings.rename .pageKey name
  | .pageSizeKey, name => settings.rename .pageSizeKey name
  | .orderByKey, name => settings.rename .orderByKey name
  | .orderByDescKey, name => settings.rename .orderByDescKey name
  | .topKey, name => settings.rename .topKey name
  | .skipKey, name => settings.rename .skipKey name

@[simp] theorem get_put_self (settings : Settings) (setting : Setting) (value : setting.Value) :
    (settings.put setting value).get setting = value := by
  cases setting <;> rfl

/-- A setting is independent of the others. -/
theorem get_put_of_ne {setting other : Setting} (h : other ≠ setting) (settings : Settings)
    (value : setting.Value) : (settings.put setting value).get other = settings.get other := by
  cases setting <;> cases other <;> first | rfl | exact absurd rfl h

theorem isEmpty_eq_true_iff {settings : Settings} {setting : Setting} :
    settings.isEmpty setting = true ↔ setting.IsEmpty (settings.get setting) := by
  cases setting with
  | reservedMark => exact iff_of_false Bool.false_ne_true id
  | pagingKeys =>
    show settings.pagingKeys.any List.isEmpty = true ↔ [] ∈ settings.pagingKeys
    simp
  | pageKey | pageSizeKey | orderByKey | orderByDescKey | topKey | skipKey =>
    exact List.isEmpty_iff

end Settings

/-! ## Some of the settings -/

namespace Settings

/-- A setting with what it is set to. -/
structure Entry where
  setting : Setting
  value : setting.Value

/-- Settings in which some are set to something else, one after the other. -/
def putAll (settings : Settings) (entries : List Entry) : Settings :=
  entries.foldl (fun settings entry => settings.put entry.setting entry.value) settings

/-- The standard settings with some of them given. -/
def ofEntries (entries : List Entry) : Settings :=
  standard.putAll entries

theorem putAll_cons (settings : Settings) (entry : Entry) (others : List Entry) :
    settings.putAll (entry :: others) =
      (settings.put entry.setting entry.value).putAll others := rfl

/-- What is not given stays. -/
theorem get_putAll_of_notMem {setting : Setting} {entries : List Entry}
    (h : setting ∉ entries.map Entry.setting) (settings : Settings) :
    (settings.putAll entries).get setting = settings.get setting := by
  induction entries generalizing settings with
  | nil => rfl
  | cons entry others ih =>
    rw [List.map_cons, List.mem_cons, not_or] at h
    rw [putAll_cons, ih h.2, get_put_of_ne h.1]

/-- What is given once is what the setting is set to. -/
theorem get_putAll_of_mem {entry : Entry} {entries : List Entry}
    (hnodup : (entries.map Entry.setting).Nodup) (h : entry ∈ entries) (settings : Settings) :
    (settings.putAll entries).get entry.setting = entry.value := by
  induction entries generalizing settings with
  | nil => cases h
  | cons first others ih =>
    rw [List.map_cons, List.nodup_cons] at hnodup
    rw [putAll_cons]
    rcases List.mem_cons.mp h with rfl | h
    · rw [get_putAll_of_notMem hnodup.1, get_put_self]
    · exact ih hnodup.2 h _

/-! ## Texts -/

/-- The text stands for what a setting is set to. -/
def Entry.Spells (entry : Entry) (text : Text) : Prop :=
  Json.Spells .kept (entry.setting.json entry.value) text

/-- A member of an object that gives settings. -/
inductive Member where
  /-- A setting is given. -/
  | given (entry : Entry)
  /-- The key is the name of no setting. -/
  | other (key : Text) (h : Setting.ofName? key = none)

namespace Member

/-- The key of a member. -/
def key : Member → Text
  | .given entry => entry.setting.name
  | .other key _ => key

/-- The setting that is given. -/
def entry? : Member → Option Entry
  | .given entry => some entry
  | .other _ _ => none

/-- The text stands for the member.  Nobody asks for the value of a key that is no name. -/
def Spells : Member → Text → Prop
  | .given entry, text => IsMember .kept entry.setting.name entry.Spells text
  | .other key _, text => IsMember .kept key IsWellFormed text

end Member

/-- The settings that members give, in their order. -/
def entriesOf (members : List Member) : List Entry :=
  members.filterMap Member.entry?

@[simp] theorem entriesOf_nil : entriesOf [] = [] := rfl

@[simp] theorem entriesOf_given (entry : Entry) (others : List Member) :
    entriesOf (.given entry :: others) = entry :: entriesOf others := rfl

@[simp] theorem entriesOf_other {key : Text} (h : Setting.ofName? key = none)
    (others : List Member) : entriesOf (.other key h :: others) = entriesOf others := rfl

/-- The text stands for settings. -/
inductive Spells : Settings → Text → Prop
  | byName {members : List Member} {text : Text}
      (h : Padded (Enclosed '\x7b' '\x7d' Member.Spells members) text)
      (hnodup : ((entriesOf members).map Entry.setting).Nodup) :
      Spells (ofEntries (entriesOf members)) text
  | inOrder {entries : List Entry} {text : Text}
      (h : Padded (Enclosed '[' ']' (fun entry => Padded entry.Spells) entries) text)
      (horder : entries.map Entry.setting <+: Setting.all) : Spells (ofEntries entries) text

end Settings

end FilterQuery
