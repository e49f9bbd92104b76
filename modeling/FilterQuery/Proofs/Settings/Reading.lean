import FilterQuery.Proofs.Json.Soundness
import FilterQuery.Proofs.Settings.Grammar
import FilterQuery.Settings.Reader

/-!
# Settings are read from the texts that stand for them

The reader of settings and their grammar agree: a text is read as certain settings exactly when it
stands for them.  One direction says that whoever writes settings by the grammar is understood, the
other that nothing else is.

Both follow from what the reader does with one item.  A member moves the draft as `Draft.add?` says,
which refuses a setting that has been given; a value of an array sets the first of the settings that
are left.  What a whole object or array does is then a matter of folding these over the items, and
no longer one of texts.

* `readSetting_append`, `exists_of_readSetting`: the value of one setting.
* `Draft.foldlM_add?`: the members of an object, one after the other.
* `foldlM_setNext?`: the values of an array.
* `ofJson_eq_ok_iff`: a whole text.
-/

namespace FilterQuery.Settings

open Json

variable {settings settings' : Settings} {text rest part : Text}

/-! ## One setting -/

theorem readSetting_dropSpace (settings : Settings) (setting : Setting) (text : Text) :
    readSetting settings setting (dropSpace text) = readSetting settings setting text := by
  cases setting <;>
    simp only [readSetting, readChar, readString_dropSpace, readStrings_dropSpace]

/-- A setting is read from any text of its value. -/
theorem readSetting_append {entry : Entry} (h : Padded entry.Spells part) (settings : Settings)
    (rest : Text) :
    ∃ space, IsSpacing space ∧ readSetting settings entry.setting (part ++ rest) =
      .ok (settings.put entry.setting entry.value, space ++ rest) := by
  obtain ⟨setting, value⟩ := entry
  cases setting with
  | reservedMark =>
    obtain ⟨space, hs, hread⟩ := readString_append h rest
    exact ⟨space, hs, by simp only [readSetting, readChar_eq_ok_iff.mpr hread, ok_bind, put]⟩
  | pagingKeys =>
    obtain ⟨space, hs, hread⟩ := readStrings_append h rest
    exact ⟨space, hs, by simp only [readSetting, hread, ok_bind, put]⟩
  | pageKey | pageSizeKey | orderByKey | orderByDescKey | topKey | skipKey =>
    obtain ⟨space, hs, hread⟩ := readString_append h rest
    exact ⟨space, hs, by simp only [readSetting, hread, ok_bind, put]⟩

/-- Nothing but a text of its value is read as a setting. -/
theorem exists_of_readSetting {setting : Setting}
    (h : readSetting settings setting text = .ok (settings', rest)) :
    ∃ value part, Padded (Entry.mk setting value).Spells part ∧
      settings' = settings.put setting value ∧ text = part ++ rest := by
  cases setting with
  | reservedMark =>
    obtain ⟨⟨mark, rest'⟩, hread, h⟩ := exists_of_bind_eq_ok h
    obtain ⟨rfl, rfl⟩ := Prod.mk.inj (Except.ok.inj h)
    obtain ⟨part, hpart, htext⟩ := exists_of_readString (readChar_eq_ok_iff.mp hread)
    exact ⟨mark, part, hpart, rfl, htext⟩
  | pagingKeys =>
    obtain ⟨⟨keys, rest'⟩, hread, h⟩ := exists_of_bind_eq_ok h
    obtain ⟨rfl, rfl⟩ := Prod.mk.inj (Except.ok.inj h)
    obtain ⟨part, hpart, htext⟩ := exists_of_readStrings hread
    exact ⟨keys, part, hpart, rfl, htext⟩
  | pageKey | pageSizeKey | orderByKey | orderByDescKey | topKey | skipKey =>
    obtain ⟨⟨name, rest'⟩, hread, h⟩ := exists_of_bind_eq_ok h
    obtain ⟨rfl, rfl⟩ := Prod.mk.inj (Except.ok.inj h)
    obtain ⟨part, hpart, htext⟩ := exists_of_readString hread
    exact ⟨name, part, hpart, rfl, htext⟩

/-! ## Settings by name -/

namespace Draft

/-- The draft after a member, unless its setting has been given. -/
def add? (draft : Draft) : Member → Option Draft
  | .given entry =>
    if entry.setting ∈ draft.given then none
    else some ⟨draft.settings.put entry.setting entry.value, entry.setting :: draft.given⟩
  | .other _ _ => some draft

/-- The draft after some settings, whether they have been given or not. -/
def addAll (draft : Draft) (entries : List Entry) : Draft :=
  ⟨draft.settings.putAll entries, (entries.map Entry.setting).reverse ++ draft.given⟩

theorem addAll_cons (draft : Draft) (entry : Entry) (others : List Entry) :
    draft.addAll (entry :: others) =
      addAll ⟨draft.settings.put entry.setting entry.value, entry.setting :: draft.given⟩
        others := by
  rw [addAll, addAll, List.map_cons, List.reverse_cons, List.append_assoc, List.singleton_append,
    putAll_cons]

/-- **The members of an object lead to a draft** if they give no setting again. -/
theorem foldlM_add? {draft draft' : Draft} {members : List Member} :
    members.foldlM add? draft = some draft' ↔
      draft.addAll (entriesOf members) = draft' ∧
        ((entriesOf members).map Entry.setting).Nodup ∧
        ∀ setting ∈ (entriesOf members).map Entry.setting, setting ∉ draft.given := by
  induction members generalizing draft with
  | nil =>
    show some (draft.addAll []) = some draft' ↔ _
    simp
  | cons member others ih =>
    cases member with
    | other key h => exact ih
    | given entry =>
      rw [List.foldlM_cons, entriesOf_given, addAll_cons, List.map_cons, List.nodup_cons,
        List.forall_mem_cons]
      by_cases hgiven : entry.setting ∈ draft.given
      · rw [add?, if_pos hgiven]
        exact iff_of_false (by simp) fun h => h.2.2.1 hgiven
      · rw [add?, if_neg hgiven]
        refine ih.trans ?_
        -- what is new to the draft with the entry is new to the draft, and not the entry again
        simp only [List.mem_cons, not_or]
        grind

end Draft

/-- A member is taken off the text of an object. -/
theorem takes_named {before after : Draft} {member : Member}
    (hstep : before.add? member = some after) (h : member.Spells part) :
    Takes '\x7d' readNamed before after part := by
  cases member with
  | given entry =>
    refine ⟨h.exists_dropSpace, fun rest _ => ?_⟩
    obtain ⟨valueText, more, hpadded, -, hkey, hcolon⟩ := h.exists_readKey rest
    obtain ⟨space, hs, hread⟩ := readSetting_append hpadded before.settings rest
    rw [Draft.add?] at hstep
    split at hstep
    case isTrue => cases hstep
    case isFalse hnew =>
      obtain ⟨⟩ := hstep
      refine ⟨space, hs, ?_⟩
      rw [readNamed, hkey, ok_bind]
      simp only [Setting.ofName?_name, if_neg hnew, hcolon, ok_bind, hread]
  | other key hother =>
    obtain ⟨⟩ := hstep
    refine ⟨h.exists_dropSpace, fun rest hr => ?_⟩
    obtain ⟨valueText, more, hpadded, -, hkey, hcolon⟩ := h.exists_readKey rest
    obtain ⟨value, hvalue⟩ := exists_padded_of_isWellFormed hpadded
    obtain ⟨space, hs, hread⟩ := read_append hvalue hr.endsNumber
    refine ⟨space, hs, ?_⟩
    rw [readNamed, hkey, ok_bind]
    simp only [hother, hcolon, ok_bind, hread]

theorem takesOnly_named : TakesOnly readNamed Draft.add? Member.Spells := by
  constructor
  · intro member part front back h hf hb
    cases member with
    | given => exact IsMember.surround h hf hb
    | other => exact IsMember.surround h hf hb
  · intro before after text rest h
    obtain ⟨⟨key, more⟩, hkey, h⟩ := exists_of_bind_eq_ok h
    dsimp only at h
    split at h
    case h_1 setting hname =>
      obtain rfl : setting.name = key := Setting.name_of_ofName? hname
      split at h
      case isTrue => cases h
      case isFalse hnew =>
        obtain ⟨afterColon, hcolon, h⟩ := exists_of_bind_eq_ok h
        obtain ⟨⟨settings, rest'⟩, hread, h⟩ := exists_of_bind_eq_ok h
        obtain ⟨rfl, rfl⟩ := Prod.mk.inj (Except.ok.inj h)
        obtain ⟨value, valueText, hpadded, rfl, rfl⟩ := exists_of_readSetting hread
        obtain ⟨part, hpart, htext⟩ := isMember_of_readKey hkey hcolon hpadded
        exact ⟨.given ⟨setting, value⟩, part, if_neg hnew, hpart, htext⟩
    case h_2 hname =>
      obtain ⟨afterColon, hcolon, h⟩ := exists_of_bind_eq_ok h
      obtain ⟨⟨value, rest'⟩, hread, h⟩ := exists_of_bind_eq_ok h
      obtain ⟨rfl, rfl⟩ := Prod.mk.inj (Except.ok.inj h)
      obtain ⟨raw, valueText, hpadded, -, rfl⟩ := exists_of_read hread
      have hformed : Padded IsWellFormed valueText := hpadded.mono fun core hcore => ⟨raw, hcore⟩
      obtain ⟨part, hpart, htext⟩ := isMember_of_readKey hkey hcolon hformed
      exact ⟨.other key hname, part, rfl, hpart, htext⟩

/-! ## Settings in order -/

/-- Reads the value of the first of the settings that are left. -/
def readNext : Settings × List Setting → Text →
    Except Fault ((Settings × List Setting) × Text)
  | (_, []), _ => .error .malformed
  | (settings, setting :: others), text => do
    let (settings, rest) ← readSetting settings setting text
    .ok ((settings, others), rest)

/-- The first of the settings that are left is given. -/
def setNext? : Settings × List Setting → Entry → Option (Settings × List Setting)
  | (_, []), _ => none
  | (settings, setting :: others), entry =>
    if entry.setting = setting then some (settings.put entry.setting entry.value, others) else none

/-- **The values of an array give the settings in their order**, up to those that are left. -/
theorem foldlM_setNext? {todo todo' : List Setting} {entries : List Entry} :
    entries.foldlM setNext? (settings, todo) = some (settings', todo') ↔
      settings.putAll entries = settings' ∧ todo = entries.map Entry.setting ++ todo' := by
  induction entries generalizing settings todo with
  | nil =>
    show some (settings, todo) = some (settings', todo') ↔ settings = settings' ∧ todo = todo'
    simp
  | cons entry others ih =>
    rw [List.foldlM_cons, putAll_cons, List.map_cons, List.cons_append]
    cases todo with
    | nil => exact iff_of_false (by simp [setNext?]) (by simp)
    | cons setting todo =>
      rw [setNext?]
      split
      case isTrue heq =>
        refine ih.trans (and_congr_right' ?_)
        rw [heq, List.cons.injEq, and_iff_right rfl]
      case isFalse hne =>
        exact iff_of_false (by simp) fun h => hne (List.cons.inj h.2).1.symm

theorem takes_next {before after : Settings × List Setting} {entry : Entry}
    (hstep : setNext? before entry = some after) (h : Padded entry.Spells part) :
    Takes ']' readNext before after part := by
  obtain ⟨settings, todo⟩ := before
  cases todo with
  | nil => cases hstep
  | cons setting others =>
    rw [setNext?] at hstep
    split at hstep
    case isFalse => cases hstep
    case isTrue heq =>
      subst heq
      obtain ⟨⟩ := hstep
      refine ⟨h.exists_dropSpace fun core hcore => Json.Spells.exists_cons hcore, fun rest _ => ?_⟩
      obtain ⟨space, hs, hread⟩ := readSetting_append h settings rest
      refine ⟨space, hs, ?_⟩
      rw [readNext, hread, ok_bind]

theorem takesOnly_next :
    TakesOnly readNext setNext? (fun entry => Padded entry.Spells) := by
  constructor
  · intro entry part front back h hf hb
    exact h.surround hf hb
  · rintro ⟨settings, todo⟩ after text rest h
    cases todo with
    | nil => cases h
    | cons setting others =>
      rw [readNext] at h
      obtain ⟨⟨settings', rest'⟩, hread, h⟩ := exists_of_bind_eq_ok h
      obtain ⟨rfl, rfl⟩ := Prod.mk.inj (Except.ok.inj h)
      obtain ⟨value, part, hpart, rfl, htext⟩ := exists_of_readSetting hread
      exact ⟨⟨setting, value⟩, part, if_pos rfl, hpart, htext⟩

/-- Behind the last setting nothing but the closing bracket is read. -/
theorem readClose_eq (first : Bool) :
    (do .ok (settings, ← readClose text)) = (do
      let (state, rest) ← readItems ']' readNext 1 first (settings, []) text
      .ok (state.1, rest)) := by
  rw [readClose, readItems, turn]
  cases dropSpace text with
  | nil => rfl
  | cons c more =>
    by_cases hc : c = ']'
    · subst hc
      rfl
    · dsimp only
      rw [if_neg hc]
      split
      case h_1 h => exact absurd h (List.cons_ne_nil _ _)
      case h_2 h => exact absurd (List.cons.inj h).1 hc
      case h_3 =>
        -- an item that no setting is left for is refused, and so is anything else
        split
        case isTrue => rfl
        case isFalse => split <;> rfl

/-- An array of settings is read like any other, and may end before all of them are given. -/
theorem readInOrder_eq (settings : Settings) (first : Bool) (todo : List Setting) (text : Text) :
    readInOrder settings first todo text = (do
      let (state, rest) ← readItems ']' readNext (todo.length + 1) first (settings, todo) text
      .ok (state.1, rest)) := by
  induction todo generalizing settings first text with
  | nil => exact readClose_eq first
  | cons setting others ih =>
    rw [readInOrder, List.length_cons, readItems]
    cases turn ']' first text with
    | error => rfl
    | ok next =>
      rw [ok_bind, ok_bind]
      cases next with
      | close last => rfl
      | item last =>
        dsimp only [readNext]
        cases readSetting settings setting last with
        | error => rfl
        | ok pair => exact ih pair.1 false pair.2

/-! ## A whole text -/

theorem readNamed_dropSpace (draft : Draft) (text : Text) :
    readNamed draft (dropSpace text) = readNamed draft text := by
  rw [readNamed, readNamed, readKey_dropSpace]

theorem readNext_dropSpace (state : Settings × List Setting) (text : Text) :
    readNext state (dropSpace text) = readNext state text := by
  obtain ⟨settings, todo⟩ := state
  cases todo with
  | nil => rfl
  | cons setting others => rw [readNext, readNext, readSetting_dropSpace]

theorem readSettings_of_byName {members : List Member}
    (h : Padded (Enclosed '\x7b' '\x7d' Member.Spells members) text)
    (hnodup : ((entriesOf members).map Entry.setting).Nodup) :
    ∃ space, IsSpacing space ∧
      readSettings text = .ok (ofEntries (entriesOf members), space) := by
  obtain ⟨inner, space, hinner, hs, hdrop⟩ := h.dropSpace_whole (by decide)
  have hcount := hinner.length_le
  have hfold : members.foldlM Draft.add? ⟨standard, []⟩ =
      some (Draft.addAll ⟨standard, []⟩ (entriesOf members)) :=
    Draft.foldlM_add?.mpr ⟨rfl, hnodup, fun _ _ => List.not_mem_nil⟩
  have hsteps : members.length ≤ (inner ++ '\x7d' :: space).length := by
    simp only [List.length_append, List.length_cons]
    omega
  have hread := readItems_append (by decide) hinner readNamed_dropSpace
    (fun _ _ _ _ hstep hpart _ => takes_named hstep hpart) hsteps hfold space
  refine ⟨space, hs, ?_⟩
  rw [readSettings, hdrop]
  show (readItems '\x7d' readNamed _ true _ _ >>= _) = _
  rw [hread, ok_bind]
  rfl

theorem readSettings_of_inOrder {entries : List Entry}
    (h : Padded (Enclosed '[' ']' (fun entry => Padded entry.Spells) entries) text)
    (horder : entries.map Entry.setting <+: Setting.all) :
    ∃ space, IsSpacing space ∧ readSettings text = .ok (ofEntries entries, space) := by
  obtain ⟨inner, space, hinner, hs, hdrop⟩ := h.dropSpace_whole (by decide)
  obtain ⟨todo, htodo⟩ := horder
  have hfold : entries.foldlM setNext? (standard, Setting.all) =
      some (ofEntries entries, todo) :=
    foldlM_setNext?.mpr ⟨rfl, htodo.symm⟩
  have hsteps : entries.length ≤ Setting.all.length := by
    rw [← htodo, List.length_append, List.length_map]
    omega
  have hread := readItems_append (by decide) hinner readNext_dropSpace
    (fun _ _ _ _ hstep hpart _ => takes_next hstep hpart) hsteps hfold space
  refine ⟨space, hs, ?_⟩
  rw [readSettings, hdrop]
  show readInOrder _ _ _ _ = _
  rw [readInOrder_eq, hread, ok_bind]

/-- What is read as settings stands for them. -/
theorem spells_of_readSettings (h : readSettings text = .ok (settings, rest)) :
    ∃ part, settings.Spells part ∧ text = part ++ rest := by
  rw [readSettings] at h
  split at h
  case h_1 more hdrop =>
    rw [readInOrder_eq] at h
    obtain ⟨⟨⟨settings', todo⟩, rest'⟩, hread, h⟩ := exists_of_bind_eq_ok h
    obtain ⟨rfl, rfl⟩ := Prod.mk.inj (Except.ok.inj h)
    obtain ⟨entries, inner, hfold, hinner, rfl⟩ := exists_of_readItems takesOnly_next hread
    obtain ⟨rfl, htodo⟩ := foldlM_setNext?.mp hfold
    obtain ⟨part, hpart, htext⟩ := exists_enclosed hinner hdrop
    exact ⟨part, .inOrder hpart ⟨todo, htodo.symm⟩, htext⟩
  case h_2 more hdrop =>
    obtain ⟨⟨draft, rest'⟩, hread, h⟩ := exists_of_bind_eq_ok h
    obtain ⟨rfl, rfl⟩ := Prod.mk.inj (Except.ok.inj h)
    obtain ⟨members, inner, hfold, hinner, rfl⟩ := exists_of_readItems takesOnly_named hread
    obtain ⟨rfl, hnodup, -⟩ := Draft.foldlM_add?.mp hfold
    obtain ⟨part, hpart, htext⟩ := exists_enclosed hinner hdrop
    exact ⟨part, .byName hpart hnodup, htext⟩
  case h_3 => cases h

/-- White space around settings changes nothing. -/
theorem Spells.surround {front back : Text} (h : settings.Spells text) (hf : IsSpacing front)
    (hb : IsSpacing back) : settings.Spells (front ++ text ++ back) := by
  cases h with
  | byName h hnodup => exact .byName (h.surround hf hb) hnodup
  | inOrder h horder => exact .inOrder (h.surround hf hb) horder

/-- **A text is read as certain settings exactly when it stands for them.** -/
theorem ofJson_eq_ok_iff : ofJson text = .ok settings ↔ settings.Spells text := by
  constructor
  · intro h
    obtain ⟨⟨settings', rest⟩, hread, h⟩ := exists_of_bind_eq_ok h
    obtain ⟨⟨⟩, hend, h⟩ := exists_of_bind_eq_ok h
    obtain rfl : settings' = settings := Except.ok.inj h
    obtain ⟨part, hpart, rfl⟩ := spells_of_readSettings hread
    exact hpart.surround isSpacing_nil (isSpacing_of_readEnd hend)
  · intro h
    have hread : ∃ space, IsSpacing space ∧ readSettings text = .ok (settings, space) := by
      cases h with
      | byName h hnodup => exact readSettings_of_byName h hnodup
      | inOrder h horder => exact readSettings_of_inOrder h horder
    obtain ⟨space, hs, hread⟩ := hread
    rw [ofJson, hread, ok_bind]
    dsimp only
    rw [readEnd_of_isSpacing hs, ok_bind]

/-- A text does not stand for other settings as well. -/
theorem Spells.unique (h : settings.Spells text) (h' : settings'.Spells text) :
    settings = settings' :=
  Except.ok.inj ((ofJson_eq_ok_iff.mpr h).symm.trans (ofJson_eq_ok_iff.mpr h'))

end FilterQuery.Settings
