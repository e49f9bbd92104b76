import FilterQuery.Proofs.Json.Kinds
import FilterQuery.Proofs.Json.Writing
import FilterQuery.Proofs.Settings.Usable

/-!
# The two forms of settings

Settings are given in order, as an array, or by name, as an object.  An array of values and the
object that gives the same values to the first settings come to the same: the same settings, the
same complaint, or a fault of the same kind.  It does not matter how either of them is written.

Both are read as a fold over the values.  Each value sets the setting whose turn it is, or is of the
wrong kind for it, and then nothing behind it is looked at.  In the array the turn is the first of
the settings that are left, in the object it is the one that is named; as the names come in the same
order, the folds go hand in hand.

* `Setting.value?`: what a value sets a setting to.
* `ofValues`: the settings that values in order come to.
* `ofJson_array`, `ofJson_object`: what either form is read as.
* `load_array_eq_load_object`: the two forms agree, and an array must not be too long.
-/

namespace FilterQuery

open Json

/-! ## What a value sets a setting to -/

namespace Setting

/-- What a value sets a setting to, if it is of the kind that the setting asks for. -/
def value? : (setting : Setting) → Json → Option setting.Value
  | .reservedMark, value => value.char?
  | .pagingKeys, value => value.strings?
  | .pageKey, value | .pageSizeKey, value | .orderByKey, value | .orderByDescKey, value
  | .topKey, value | .skipKey, value => value.string?

theorem value?_eq_some_iff {setting : Setting} {value : Json} {set : setting.Value} :
    setting.value? value = some set ↔ setting.json set = value := by
  cases setting with
  | reservedMark => exact char?_eq_some_iff
  | pagingKeys => exact strings?_eq_some_iff
  | pageKey | pageSizeKey | orderByKey | orderByDescKey | topKey | skipKey =>
    exact string?_eq_some_iff

end Setting

namespace Settings

variable {settings settings' : Settings} {setting : Setting} {value : Json} {values : List Json}
  {text rest part : Text}

/-- A value that a setting cannot be set to is refused for its kind. -/
theorem readSetting_refused (h : Padded (Json.Spells .kept value) part)
    (hvalue : setting.value? value = none) (hr : EndsItem rest) (settings : Settings) :
    readSetting settings setting (part ++ rest) = .error .mismatched := by
  cases setting with
  | reservedMark => rw [readSetting, readChar_refused h hvalue hr, error_bind]
  | pagingKeys => rw [readSetting, readStrings_refused h hvalue hr, error_bind]
  | pageKey | pageSizeKey | orderByKey | orderByDescKey | topKey | skipKey =>
    rw [readSetting, readString_refused h hvalue hr, error_bind] <;> simp

/-! ## Values in order -/

/-- The first of the settings that are left is set to a value. -/
def takeNext : Settings × List Setting → Json → Except Fault (Settings × List Setting)
  | (_, []), _ => .error .malformed
  | (settings, setting :: others), value =>
    match setting.value? value with
    | some set => .ok (settings.put setting set, others)
    | none => .error .mismatched

/-- The settings that values in order come to. -/
def ofValues (values : List Json) : Except Fault Settings := do
  let (settings, _) ← values.foldlM takeNext (standard, Setting.all)
  .ok settings

theorem answers_next (h : Padded (Json.Spells .kept value) part)
    (state : Settings × List Setting) :
    Answers ']' readNext state (takeNext state value) part := by
  have hhead := h.exists_dropSpace fun core hcore => hcore.exists_cons
  obtain ⟨settings, todo⟩ := state
  cases todo with
  | nil => exact ⟨hhead, fun rest _ => rfl⟩
  | cons setting others =>
    rw [takeNext]
    cases hvalue : setting.value? value with
    | some set =>
      obtain rfl := Setting.value?_eq_some_iff.mp hvalue
      have hset : setNext? (settings, setting :: others) ⟨setting, set⟩ =
          some (settings.put setting set, others) := if_pos rfl
      exact takes_next hset h
    | none =>
      refine ⟨hhead, fun rest hr => ?_⟩
      rw [readNext, readSetting_refused h hvalue hr, error_bind]

/-- The JSON value for what an entry sets its setting to. -/
def Entry.json (entry : Entry) : Json :=
  entry.setting.json entry.value

theorem Entry.value?_json (entry : Entry) : entry.setting.value? entry.json = some entry.value :=
  Setting.value?_eq_some_iff.mpr rfl

/-- What an entry sets its setting to is written as one of its texts. -/
theorem Entry.isWritten_json (entry : Entry) : entry.json.IsWritten := by
  obtain ⟨setting, value⟩ := entry
  cases setting with
  | reservedMark => exact isWritten_string [value]
  | pagingKeys =>
    refine isWritten_array fun item hm => ?_
    obtain ⟨key, -, rfl⟩ := List.mem_map.mp hm
    exact isWritten_string key
  | pageKey | pageSizeKey | orderByKey | orderByDescKey | topKey | skipKey =>
    exact isWritten_string value

/-- A value is taken as an entry of the setting whose turn it is. -/
theorem takeNext_eq_ok_iff {before after : Settings × List Setting} :
    takeNext before value = .ok after ↔
      ∃ entry : Entry, entry.json = value ∧ setNext? before entry = some after := by
  obtain ⟨settings, todo⟩ := before
  cases todo with
  | nil => exact iff_of_false (by simp [takeNext]) (by simp [setNext?])
  | cons setting others =>
    constructor
    · intro h
      rw [takeNext] at h
      split at h
      case h_1 set hset =>
        obtain rfl := Except.ok.inj h
        exact ⟨⟨setting, set⟩, Setting.value?_eq_some_iff.mp hset, if_pos rfl⟩
      case h_2 => cases h
    · rintro ⟨entry, rfl, hset⟩
      rw [setNext?] at hset
      split at hset
      case isTrue heq =>
        subst heq
        obtain rfl := Option.some.inj hset
        rw [takeNext, entry.value?_json]
      case isFalse => cases hset

/-- **Values in order are taken as entries**, one for each of them. -/
theorem foldlM_takeNext_eq_ok_iff {before after : Settings × List Setting} :
    values.foldlM takeNext before = .ok after ↔
      ∃ entries : List Entry, entries.map Entry.json = values ∧
        entries.foldlM setNext? before = some after := by
  induction values generalizing before with
  | nil =>
    constructor
    · intro h
      obtain rfl := Except.ok.inj h
      exact ⟨[], rfl, rfl⟩
    · rintro ⟨entries, hmap, hrun⟩
      obtain rfl := List.map_eq_nil_iff.mp hmap
      obtain rfl := Option.some.inj hrun
      rfl
  | cons value others ih =>
    rw [List.foldlM_cons]
    constructor
    · intro h
      obtain ⟨between, hfirst, hmore⟩ := exists_of_bind_eq_ok h
      obtain ⟨entry, rfl, hset⟩ := takeNext_eq_ok_iff.mp hfirst
      obtain ⟨entries, rfl, hrun⟩ := ih.mp hmore
      refine ⟨entry :: entries, rfl, ?_⟩
      rw [List.foldlM_cons, hset]
      exact hrun
    · rintro ⟨entries, hmap, hrun⟩
      obtain ⟨entry, more, rfl, rfl, rfl⟩ := List.map_eq_cons_iff.mp hmap
      obtain ⟨between, hset, hmore⟩ := exists_of_foldlM_cons hrun
      rw [takeNext_eq_ok_iff.mpr ⟨entry, rfl, hset⟩]
      exact ih.mpr ⟨more, rfl, hmore⟩

theorem ofValues_eq_ok_iff :
    ofValues values = .ok settings ↔ ∃ entries : List Entry, entries.map Entry.json = values ∧
      entries.map Entry.setting <+: Setting.all ∧ ofEntries entries = settings := by
  constructor
  · intro h
    obtain ⟨⟨settings', todo⟩, hfold, h⟩ := exists_of_bind_eq_ok h
    obtain rfl := Except.ok.inj h
    obtain ⟨entries, hmap, hrun⟩ := foldlM_takeNext_eq_ok_iff.mp hfold
    obtain ⟨hput, htodo⟩ := foldlM_setNext?.mp hrun
    exact ⟨entries, hmap, ⟨todo, htodo.symm⟩, hput⟩
  · rintro ⟨entries, hmap, ⟨todo, htodo⟩, rfl⟩
    have hrun : entries.foldlM setNext? (standard, Setting.all) =
        some (ofEntries entries, todo) :=
      foldlM_setNext?.mpr ⟨rfl, htodo.symm⟩
    rw [ofValues, foldlM_takeNext_eq_ok_iff.mpr ⟨entries, hmap, hrun⟩, ok_bind]

/-- As long as there are settings left, a value is refused for nothing but its kind. -/
theorem eq_mismatched_of_foldlM_takeNext {fault : Fault} {todo : List Setting}
    (hlen : values.length ≤ todo.length)
    (h : values.foldlM takeNext (settings, todo) = .error fault) : fault = .mismatched := by
  induction values generalizing settings todo with
  | nil => cases h
  | cons value others ih =>
    cases todo with
    | nil => exact absurd hlen (by simp)
    | cons setting more =>
      rw [List.foldlM_cons, takeNext] at h
      cases hvalue : setting.value? value with
      | none =>
        rw [hvalue] at h
        exact (Except.error.inj h).symm
      | some set =>
        rw [hvalue] at h
        exact ih (Nat.le_of_succ_le_succ hlen) h

theorem ofValues_eq_error_iff {fault : Fault} (hlen : values.length ≤ Setting.all.length) :
    ofValues values = .error fault ↔ fault = .mismatched ∧
      ¬ ∃ entries : List Entry, entries.map Entry.json = values ∧
        entries.map Entry.setting <+: Setting.all := by
  have hmismatched : ∀ fault, ofValues values = .error fault → fault = .mismatched := by
    intro fault h
    cases hfold : values.foldlM takeNext (standard, Setting.all) with
    | error other =>
      obtain rfl := eq_mismatched_of_foldlM_takeNext hlen hfold
      rw [ofValues, hfold] at h
      exact (Except.error.inj h).symm
    | ok state =>
      rw [ofValues, hfold] at h
      cases h
  constructor
  · intro h
    refine ⟨hmismatched fault h, ?_⟩
    rintro ⟨entries, hmap, horder⟩
    cases h.symm.trans (ofValues_eq_ok_iff.mpr ⟨entries, hmap, horder, rfl⟩)
  · rintro ⟨rfl, hnone⟩
    cases hvalues : ofValues values with
    | error fault => rw [hmismatched fault hvalues]
    | ok settings =>
      obtain ⟨entries, hmap, horder, -⟩ := ofValues_eq_ok_iff.mp hvalues
      exact absurd ⟨entries, hmap, horder⟩ hnone

/-! ## Values by name -/

/-- The setting that is named is set to a value, unless it has been given. -/
def takeMember (draft : Draft) (member : Setting × Json) : Except Fault Draft :=
  if member.1 ∈ draft.given then
    .error .mismatched
  else
    match member.1.value? member.2 with
    | some set => .ok ⟨draft.settings.put member.1 set, member.1 :: draft.given⟩
    | none => .error .mismatched

theorem answers_named {member : Setting × Json}
    (h : IsMember .kept member.1.name (Json.Spells .kept member.2) part) (draft : Draft) :
    Answers '\x7d' readNamed draft (takeMember draft member) part := by
  obtain ⟨setting, value⟩ := member
  rw [takeMember]
  split
  case isTrue hgiven =>
    refine ⟨h.exists_dropSpace, fun rest _ => ?_⟩
    obtain ⟨valueText, more, -, -, hkey, -⟩ := h.exists_readKey rest
    rw [readNamed, hkey, ok_bind]
    simp only [Setting.ofName?_name, if_pos hgiven]
  case isFalse hnew =>
    cases hvalue : setting.value? value with
    | some set =>
      obtain rfl := Setting.value?_eq_some_iff.mp hvalue
      have hadd : draft.add? (.given ⟨setting, set⟩) =
          some ⟨draft.settings.put setting set, setting :: draft.given⟩ := if_neg hnew
      exact takes_named hadd h
    | none =>
      refine ⟨h.exists_dropSpace, fun rest hr => ?_⟩
      obtain ⟨valueText, more, hpadded, -, hkey, hcolon⟩ := h.exists_readKey rest
      rw [readNamed, hkey, ok_bind]
      simp only [Setting.ofName?_name, if_neg hnew, hcolon, ok_bind,
        readSetting_refused hpadded hvalue hr, error_bind]

/-- **Values by name come to what they come to in order**, when they are named in the order of the
settings that are left. -/
theorem foldlM_takeMember (draft : Draft) {todo : List Setting}
    (hlen : values.length ≤ todo.length) (hnodup : todo.Nodup)
    (hnew : ∀ setting ∈ todo, setting ∉ draft.given) :
    (do
      let draft ← (todo.zip values).foldlM takeMember draft
      .ok draft.settings) = (do
      let (settings, _) ← values.foldlM takeNext (draft.settings, todo)
      .ok settings) := by
  induction values generalizing draft todo with
  | nil =>
    rw [List.zip_nil_right]
    rfl
  | cons value others ih =>
    cases todo with
    | nil => exact absurd hlen (by simp)
    | cons setting more =>
      rw [List.nodup_cons] at hnodup
      rw [List.zip_cons_cons, List.foldlM_cons, List.foldlM_cons, takeMember,
        if_neg (hnew setting List.mem_cons_self), takeNext]
      cases setting.value? value with
      | none => rfl
      | some set =>
        refine ih _ (Nat.le_of_succ_le_succ hlen) hnodup.2 fun other hm => ?_
        rw [List.mem_cons, not_or]
        refine ⟨?_, hnew other (List.mem_cons_of_mem _ hm)⟩
        rintro rfl
        exact hnodup.1 hm

/-! ## Texts -/

/-- **An array of values is read as what they come to in order.** -/
theorem ofJson_array (hlen : values.length ≤ Setting.all.length)
    (h : Padded (Json.Spells .kept (.array values)) text) : ofJson text = ofValues values := by
  have henclosed := h.mono fun core hcore => spells_array_iff_enclosed.mp hcore
  obtain ⟨inner, space, hinner, hs, hdrop⟩ := henclosed.dropSpace_whole (by decide)
  rw [ofJson, readSettings, hdrop]
  show (readInOrder _ _ _ _ >>= _) = _
  rw [readInOrder_eq, readItems_outcome (by decide) hinner readNext_dropSpace
    (fun before item part hpart => answers_next hpart before) hlen, ofValues]
  cases values.foldlM takeNext (standard, Setting.all) with
  | error => rfl
  | ok state =>
    show (readEnd space >>= _) = _
    rw [readEnd_of_isSpacing hs, ok_bind]
    rfl

/-- **An object that gives values to the first settings is read as what they come to in order.** -/
theorem ofJson_object (hlen : values.length ≤ Setting.all.length)
    (h : Padded (Json.Spells .kept (.object ((Setting.all.map Setting.name).zip values))) text) :
    ofJson text = ofValues values := by
  have henclosed := h.mono fun core hcore => spells_object_iff_enclosed.mp hcore
  obtain ⟨inner, space, hlisted, hs, hdrop⟩ := henclosed.dropSpace_whole (by decide)
  rw [List.zip_map_left, listed_map] at hlisted
  have hcount := hlisted.length_le
  have hsteps : (Setting.all.zip values).length ≤ (inner ++ '\x7d' :: space).length := by
    simp only [List.length_append, List.length_cons]
    omega
  have hread := readItems_outcome (by decide) hlisted readNamed_dropSpace
    (fun before member part hpart => answers_named hpart before) hsteps ⟨standard, []⟩ space
  have hfold := foldlM_takeMember ⟨standard, []⟩ hlen (by decide)
    fun setting _ => List.not_mem_nil
  rw [ofJson, readSettings, hdrop]
  show ((readItems _ _ _ _ _ _ >>= _) >>= _) = _
  rw [hread]
  cases hmembers : (Setting.all.zip values).foldlM takeMember ⟨standard, []⟩ with
  | error fault =>
    rw [hmembers] at hfold
    exact hfold
  | ok draft =>
    rw [hmembers] at hfold
    show (readEnd space >>= _) = _
    rw [readEnd_of_isSpacing hs, ok_bind]
    exact hfold

/-- **An array must not have a value for which no setting is left**, whatever it is. -/
theorem ofJson_array_too_long {entries : List Entry} {front inner : Text}
    (hentries : entries.map Entry.setting = Setting.all) (hfront : IsSpacing front)
    (h : Listed (fun entry => Padded entry.Spells) entries inner) (more : Text) :
    ofJson (front ++ '[' :: (inner ++ ',' :: more)) = .error .malformed := by
  cases entries with
  | nil => cases hentries
  | cons entry others =>
    have hrun : (entry :: others).foldlM setNext? (standard, Setting.all) =
        some (ofEntries (entry :: others), []) :=
      foldlM_setNext?.mpr ⟨rfl, by rw [hentries, List.append_nil]⟩
    have hfold := foldlM_takeNext_eq_ok_iff.mpr ⟨entry :: others, rfl, hrun⟩
    have hlisted : Listed (fun value => Padded (Json.Spells .kept value))
        ((entry :: others).map Entry.json) inner := (listed_map Entry.json).mpr h
    have hlength : Setting.all.length = (others.map Entry.json).length + 1 := by
      rw [← hentries, List.length_map, List.length_map, List.length_cons]
    rw [List.map_cons] at hfold hlisted
    obtain ⟨space, hs, hread⟩ := readItems_front (by decide) hlisted readNext_dropSpace
      (fun before value part hpart => answers_next hpart before) (standard, Setting.all)
      ⟨',', more, rfl, by simp⟩ 1
    rw [ofJson, readSettings, dropSpace_append hfront, dropSpace_cons (by decide)]
    show (readInOrder _ _ _ _ >>= _) = _
    -- one more turn is granted than there are settings, and it is for the closing bracket
    rw [readInOrder_eq, hlength, hread, hfold, ok_bind, readItems, turn_comma hs (by decide),
      ok_bind]
    rfl

/-! ## Loading -/

theorem load_congr {text' : Text} (h : ofJson text = ofJson text') : load text = load text' := by
  rw [load, load, h]

/-- A fault in the text is not taken for a setting that cannot be used. -/
theorem load_eq_unreadable_iff_ofJson {fault : Fault} :
    load text = .error (.unreadable fault) ↔ ofJson text = .error fault := by
  rw [load]
  cases ofJson text with
  | error other => simp
  | ok settings =>
    dsimp only
    rw [check]
    cases settings.firstEmpty? <;> simp

/-- **The two forms of settings agree.**  An array of values, at most one for each setting, and the
object that gives the same values to the first settings by name load the same, be it settings, a
complaint about one of them or a fault; there is a fault exactly where a value is of the wrong kind
for its setting, and it says so.  An array in which something stands behind the values of all
settings and a comma is unreadable. -/
theorem load_array_eq_load_object :
    (∀ (values : List Json) (array object : Text), values.length ≤ Setting.all.length →
      Padded (Json.Spells .kept (.array values)) array →
      Padded (Json.Spells .kept (.object ((Setting.all.map Setting.name).zip values))) object →
      load array = load object ∧
        ∀ fault, load array = .error (.unreadable fault) ↔ fault = .mismatched ∧
          ¬ ∃ entries : List Entry, entries.map Entry.json = values ∧
            entries.map Entry.setting <+: Setting.all) ∧
    ∀ (entries : List Entry) (front inner more : Text),
      entries.map Entry.setting = Setting.all → IsSpacing front →
      Listed (fun entry => Padded entry.Spells) entries inner →
      load (front ++ '[' :: (inner ++ ',' :: more)) = .error (.unreadable .malformed) := by
  constructor
  · intro values array object hlen harray hobject
    have hvalues := ofJson_array hlen harray
    refine ⟨load_congr (hvalues.trans (ofJson_object hlen hobject).symm), fun fault => ?_⟩
    rw [load_eq_unreadable_iff_ofJson, hvalues, ofValues_eq_error_iff hlen]
  · intro entries front inner more hentries hfront h
    exact load_eq_unreadable_iff_ofJson.mpr (ofJson_array_too_long hentries hfront h more)

/-- A mark and no paging keys, in order with white space and by name; and nine values, of which the
first eight can be set. -/
theorem load_array_eq_load_object_wrong_kind :
    let values : List Json := [.string ['@'], .null]
    let array := "[\"@\", null ]".toList
    let object := "\x7b\"reserved_prefix\":\"@\",\"paging_keys\":null\x7d".toList
    let nine := "[\"@\",[],\"a\",\"b\",\"c\",\"d\",\"e\",\"f\",null]".toList
    (load array = load object ∧ load array = .error (.unreadable .mismatched) ∧
      ¬ ∃ entries : List Entry, entries.map Entry.json = values ∧
        entries.map Entry.setting <+: Setting.all) ∧
    load nine = .error (.unreadable .malformed) := by
  intro values array object nine
  constructor
  · have hspace : IsSpacing [' '] := by simp [IsSpacing, isSpace]
    have hmark := isWritten_string ['@']
    have hnull : Padded (Json.Spells .kept .null) " null ".toList :=
      ⟨_, _, _, hspace, rfl, hspace, rfl⟩
    have harray : Padded (Json.Spells .kept (.array values)) array :=
      .of_kind ⟨_, ⟨_, _, .of_kind hmark.spells, hnull, rfl⟩, rfl⟩
    have hobject : (Json.object ((Setting.all.map Setting.name).zip values)).IsWritten := by
      refine isWritten_object fun member hm => ?_
      have hvalue : member.2 ∈ values := (List.of_mem_zip hm).2
      simp only [values, List.mem_cons, List.not_mem_nil, or_false] at hvalue
      rcases hvalue with h | h
      · rw [h]
        exact hmark
      · rw [h]
        exact isWritten_null
    obtain ⟨hsame, hfault⟩ := load_array_eq_load_object.1 values array object (by decide) harray
      (.of_kind hobject.spells)
    have hload : load array = .error (.unreadable .mismatched) := by rfl
    exact ⟨hsame, hload, ((hfault .mismatched).mp hload).2⟩
  · let entries : List Entry := [⟨.reservedMark, '@'⟩, ⟨.pagingKeys, ([] : List Text)⟩,
      ⟨.pageKey, "a".toList⟩, ⟨.pageSizeKey, "b".toList⟩, ⟨.orderByKey, "c".toList⟩,
      ⟨.orderByDescKey, "d".toList⟩, ⟨.topKey, "e".toList⟩, ⟨.skipKey, "f".toList⟩]
    have hwritten : SpellsItems .kept (entries.map Entry.json)
        (renderItems (entries.map Entry.json)) := by
      refine spellsItems_renderItems fun value hm => ?_
      obtain ⟨entry, -, rfl⟩ := List.mem_map.mp hm
      exact entry.isWritten_json.spells
    have hlisted := (listed_map Entry.json).mp (spellsItems_iff_listed.mp hwritten)
    exact load_array_eq_load_object.2 entries [] _ "null]".toList rfl isSpacing_nil hlisted

end Settings

end FilterQuery
