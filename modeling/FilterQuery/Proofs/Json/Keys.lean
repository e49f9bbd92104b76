import FilterQuery.Proofs.Json.Reading
import Mathlib.Data.List.Basic

/-!
# The keys of an object

An object may be looked at for its keys alone, whatever their values are.  The values then only have
to be well-formed: they are passed over, which is possible for anything that could be had as well.

A text is an object with certain keys in one way only, because the reader finds them in it.

* `Spells.isWellFormed`: what can be had can be passed over.
* `IsKeyed`: a member of which only the key is known.
* `keys_unique`: the keys of a text.
-/

namespace FilterQuery.Json

variable {text part : Text}

/-! ## What is passed over -/

theorem Quoted.Spells.exists_skipped {string code : Text} (h : Quoted.Spells .kept string code) :
    ∃ string', Quoted.Spells .skipped string' code := by
  induction h with
  | nil => exact ⟨_, .nil⟩
  | plain hq hb hc _ ih =>
    obtain ⟨_, ih⟩ := ih
    exact ⟨_, .plain hq hb hc ih⟩
  | letter hl _ ih =>
    obtain ⟨_, ih⟩ := ih
    exact ⟨_, .letter hl ih⟩
  | unit hu _ _ ih =>
    obtain ⟨_, ih⟩ := ih
    exact ⟨_, .unit hu (Or.inl rfl) ih⟩
  | pair _ hu _ hu' _ _ ih =>
    -- the halves of a pair are passed over one by one
    obtain ⟨_, ih⟩ := ih
    exact ⟨_, .unit hu (Or.inl rfl) (.unit hu' (Or.inl rfl) ih)⟩

/-- A list whose items can be taken for something else. -/
theorem Listed.exists_of_forall {α β : Type} {spells : α → Text → Prop} {spells' : β → Text → Prop}
    {items : List α} (h : Listed spells items text)
    (hitem : ∀ item ∈ items, ∀ part, spells item part → ∃ item', spells' item' part) :
    ∃ items', items'.length = items.length ∧ Listed spells' items' text := by
  induction items generalizing text with
  | nil => exact ⟨[], rfl, h⟩
  | cons item others ih =>
    have hfirst := hitem item List.mem_cons_self
    cases others with
    | nil =>
      obtain ⟨item', hitem'⟩ := hfirst text h
      exact ⟨[item'], rfl, hitem'⟩
    | cons next more =>
      obtain ⟨first, last, hspells, hlast, rfl⟩ := h
      obtain ⟨item', hitem'⟩ := hfirst first hspells
      obtain ⟨items', hlen, hitems'⟩ :=
        ih hlast fun other hm => hitem other (List.mem_cons_of_mem _ hm)
      cases items' with
      | nil => cases hlen
      | cons next' more' =>
        exact ⟨item' :: next' :: more', congrArg Nat.succ hlen, first, last, hitem', hitems', rfl⟩

/-- **What can be had can be passed over.** -/
theorem Spells.isWellFormed {value : Json} (h : Spells .kept value text) : IsWellFormed text := by
  induction value using Json.induct generalizing text with
  | null => exact ⟨.null, h⟩
  | bool value => exact ⟨.bool value, by cases value <;> exact h⟩
  | number value =>
    obtain ⟨numeral, hnumeral, -⟩ := h
    exact ⟨.number (.integer 0), numeral, hnumeral, rfl⟩
  | string value =>
    obtain ⟨code, hcode, rfl⟩ := h
    obtain ⟨value', hskipped⟩ := hcode.exists_skipped
    exact ⟨.string value', code, hskipped, rfl⟩
  | array items ih =>
    obtain ⟨inner, hinner, rfl⟩ := h
    have hitem : ∀ item ∈ items, ∀ part, Padded (Spells .kept item) part →
        ∃ item', Padded (Spells .skipped item') part := fun item hm part hpart =>
      exists_padded_of_isWellFormed (hpart.mono fun core => ih item hm)
    obtain ⟨items', -, hitems'⟩ := (spellsItems_iff_listed.mp hinner).exists_of_forall hitem
    exact ⟨.array items', inner, spellsItems_iff_listed.mpr hitems', rfl⟩
  | object members ih =>
    obtain ⟨inner, hinner, rfl⟩ := h
    have hmember : ∀ member ∈ members, ∀ part, SpellsMember .kept member part →
        ∃ member', SpellsMember .skipped member' part := by
      rintro member hm part ⟨keyText, valueText, hkey, hvalue, rfl⟩
      obtain ⟨front, core, back, hf, ⟨code, hcode, rfl⟩, hb, rfl⟩ := hkey
      obtain ⟨key', hkey'⟩ := hcode.exists_skipped
      obtain ⟨value', hvalue'⟩ :=
        exists_padded_of_isWellFormed (hvalue.mono fun core => ih member hm)
      exact ⟨(key', value'), _, _, ⟨front, _, back, hf, ⟨code, hkey', rfl⟩, hb, rfl⟩, hvalue', rfl⟩
    obtain ⟨members', -, hmembers'⟩ := (spellsMembers_iff_listed.mp hinner).exists_of_forall hmember
    exact ⟨.object members', inner, spellsMembers_iff_listed.mpr hmembers', rfl⟩

/-! ## Keys -/

/-- A member with a key and any value. -/
def IsKeyed (key text : Text) : Prop :=
  IsMember .kept key IsWellFormed text

/-- Reads the key of a member and passes over its value. -/
def readKeyed (text : Text) : Except Fault (Text × Text) := do
  let (key, rest) ← readKey .kept text
  let (_, rest) ← read .skipped (← readColon rest)
  .ok (key, rest)

theorem readKeyed_dropSpace (text : Text) : readKeyed (dropSpace text) = readKeyed text := by
  rw [readKeyed, readKeyed, readKey_dropSpace]

theorem takes_keyed {key : Text} (h : IsKeyed key part) (keys : List Text) :
    Takes '\x7d' (readOneMore readKeyed) keys (key :: keys) part := by
  refine ⟨h.exists_dropSpace, fun rest hr => ?_⟩
  obtain ⟨valueText, more, hpadded, -, hkey, hcolon⟩ := h.exists_readKey rest
  obtain ⟨value, hvalue⟩ := exists_padded_of_isWellFormed hpadded
  obtain ⟨space, hs, hread⟩ := read_append hvalue hr.endsNumber
  refine ⟨space, hs, ?_⟩
  rw [readOneMore, readKeyed, hkey, ok_bind]
  dsimp only
  rw [hcolon, ok_bind, hread, ok_bind]
  rfl

/-- The keys of an object are read from its text. -/
theorem readItems_readKeyed {keys : List Text} {inner : Text} (h : Listed IsKeyed keys inner)
    {steps : Nat} (hsteps : keys.length ≤ steps) (rest : Text) :
    readItems '\x7d' (readOneMore readKeyed) (steps + 1) true [] (inner ++ '\x7d' :: rest) =
      .ok (keys.reverse, rest) := by
  have hfold : keys.foldlM (fun read key => some (key :: read)) [] = some keys.reverse :=
    List.foldlM_pure.trans (by rw [List.foldl_flip_cons_eq_append', List.append_nil]; rfl)
  refine readItems_append (by decide) h (readOneMore_dropSpace readKeyed_dropSpace) ?_ hsteps
    hfold rest
  rintro before key _ part ⟨⟩ hpart -
  exact takes_keyed hpart before

/-- **A text is an object with certain keys in one way only.** -/
theorem keys_unique {keys keys' : List Text}
    (h : Padded (Enclosed '\x7b' '\x7d' IsKeyed keys) text)
    (h' : Padded (Enclosed '\x7b' '\x7d' IsKeyed keys') text) : keys = keys' := by
  obtain ⟨inner, space, hinner, -, hdrop⟩ := h.dropSpace_whole (by decide)
  obtain ⟨inner', space', hinner', -, hdrop'⟩ := h'.dropSpace_whole (by decide)
  have hsame := (List.cons.inj (hdrop.symm.trans hdrop')).2
  -- as many steps as either list of keys needs
  have hread := readItems_readKeyed hinner (Nat.le_max_left _ keys'.length) space
  have hread' := readItems_readKeyed hinner' (Nat.le_max_right keys.length _) space'
  rw [hsame, hread'] at hread
  exact (List.reverse_injective (Prod.mk.inj (Except.ok.inj hread)).1).symm

end FilterQuery.Json
