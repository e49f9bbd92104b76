import FilterQuery.Text.Basic

/-!
# Settings

The settings say which parameters are not conditions of a filter but control the query: its order,
its page, its length.  Six parameters are found by name.  Any other key that opens with the reserved
mark, or that is one of the paging keys in whatever case, is left for others to read.

* `Settings`: the settings, with their standard values.
* `Setting`: one of them, by itself.
* `Settings.isControl`: whether a key controls the query.
* `Settings.firstEmpty?`: the setting to blame where one is unusable.
-/

namespace FilterQuery

/-- Which parameters control a query. -/
structure Settings where
  /-- A key that opens with this character is reserved. -/
  reservedMark : Char := '$'
  /-- Keys that have to do with paging, in any case. -/
  pagingKeys : List Text := ["page".toList, "pageSize".toList]
  /-- The parameter with the number of the page. -/
  pageKey : Text := "page".toList
  /-- The parameter with the number of rows on a page. -/
  pageSizeKey : Text := "pageSize".toList
  /-- The parameter with the property to sort by. -/
  orderByKey : Text := "$orderBy".toList
  /-- The parameter with the property to sort by from the last to the first. -/
  orderByDescKey : Text := "$orderByDesc".toList
  /-- The parameter with the greatest number of rows. -/
  topKey : Text := "$top".toList
  /-- The parameter with the number of rows to leave out. -/
  skipKey : Text := "$skip".toList
  deriving DecidableEq, Repr

/-- One of the settings. -/
inductive Setting where
  | reservedMark
  | pagingKeys
  | pageKey
  | pageSizeKey
  | orderByKey
  | orderByDescKey
  | topKey
  | skipKey
  deriving DecidableEq, Repr

namespace Setting

/-- All settings, in the order in which a list of values gives them. -/
def all : List Setting :=
  [.reservedMark, .pagingKeys, .pageKey, .pageSizeKey, .orderByKey, .orderByDescKey, .topKey,
    .skipKey]

/-- The settings that name a parameter. -/
def named : List Setting :=
  [.pageKey, .pageSizeKey, .orderByKey, .orderByDescKey, .topKey, .skipKey]

/-- The name of a setting. -/
def name : Setting → Text
  | .reservedMark => "reserved_prefix".toList
  | .pagingKeys => "paging_keys".toList
  | .pageKey => "page_key".toList
  | .pageSizeKey => "page_size_key".toList
  | .orderByKey => "order_by_key".toList
  | .orderByDescKey => "order_by_desc_key".toList
  | .topKey => "top_key".toList
  | .skipKey => "skip_key".toList

/-- The setting of a name. -/
def ofName? (name : Text) : Option Setting :=
  all.find? fun setting => setting.name = name

/-- A name leads back to its setting. -/
@[simp] theorem ofName?_name (setting : Setting) : ofName? setting.name = some setting := by
  cases setting <;> decide

/-- What is wrong with a setting that is empty. -/
def emptyReason : Setting → Text
  | .pagingKeys => "paging_keys must not contain empty entries".toList
  | setting => setting.name ++ " must not be empty".toList

end Setting

namespace Settings

/-- The settings that hold where nothing else is said. -/
def standard : Settings := {}

/-- The names of the six parameters that are found by name. -/
def controlNames (settings : Settings) : List Text :=
  [settings.pageKey, settings.pageSizeKey, settings.orderByKey, settings.orderByDescKey,
    settings.topKey, settings.skipKey]

/-- Settings in which a parameter has another name.  The settings that name no parameter stay. -/
def rename (settings : Settings) (setting : Setting) (name : Text) : Settings :=
  match setting with
  | .pageKey => { settings with pageKey := name }
  | .pageSizeKey => { settings with pageSizeKey := name }
  | .orderByKey => { settings with orderByKey := name }
  | .orderByDescKey => { settings with orderByDescKey := name }
  | .topKey => { settings with topKey := name }
  | .skipKey => { settings with skipKey := name }
  | .reservedMark | .pagingKeys => settings

/-! ## Keys that control the query -/

/-- Whether a key opens with the reserved mark. -/
def isReserved (settings : Settings) (key : Text) : Bool :=
  key.head? == some settings.reservedMark

/-- Whether two texts differ at most in the case of ASCII letters. -/
def sameLetters (a b : Text) : Bool :=
  a.map Char.toLower == b.map Char.toLower

/-- Whether a key is one of the paging keys, in whatever case. -/
def isPagingKey (settings : Settings) (key : Text) : Bool :=
  settings.pagingKeys.any fun paging => sameLetters paging key

/-- Whether a key is the name of one of the six parameters. -/
def isNamedControl (settings : Settings) (key : Text) : Bool :=
  settings.controlNames.any fun name => name == key

theorem isNamedControl_iff {settings : Settings} {key : Text} :
    settings.isNamedControl key = true ↔ key ∈ settings.controlNames := by
  simp [isNamedControl]

/-- Whether a key controls the query. -/
def isControl (settings : Settings) (key : Text) : Bool :=
  settings.isNamedControl key || settings.isReserved key || settings.isPagingKey key

/-! ## Settings that cannot be used -/

/-- Whether a setting leaves a parameter without a name. -/
def isEmpty (settings : Settings) : Setting → Bool
  | .reservedMark => false
  | .pagingKeys => settings.pagingKeys.any List.isEmpty
  | .pageKey => settings.pageKey.isEmpty
  | .pageSizeKey => settings.pageSizeKey.isEmpty
  | .orderByKey => settings.orderByKey.isEmpty
  | .orderByDescKey => settings.orderByDescKey.isEmpty
  | .topKey => settings.topKey.isEmpty
  | .skipKey => settings.skipKey.isEmpty

/-- The first setting that leaves a parameter without a name.  The names come first, in a fixed
order, the paging keys last. -/
def firstEmpty? (settings : Settings) : Option Setting :=
  (Setting.named ++ [Setting.pagingKeys]).find? settings.isEmpty

end Settings

end FilterQuery
