import FilterQuery.Proofs.Text.Pieces
import Mathlib.Data.List.Infix

/-!
# Tags

What a key opens with may say how it is meant.  Such a tag is some letters and the underscore that
ends them.  Since a tag ends at its first underscore, it can be found in any text that opens with
it, as what stands before the first underscore of the text.  No text therefore opens with two tags,
and where the tags of a table are tried one after another, their order plays no part.

* `Text.IsTag`: the texts that end at their first underscore.
* `Text.IsTag.append_inj`: a tag and what follows it are determined by the text.
* `Text.Opens`: a key, the part up to its first underscore, and the rest of it.
* `Text.findSome?_tag_eq_some_iff`, `Text.findSome?_tag_eq_none_iff`: what is found in a key by a
  table of tags.
* `Text.findSome?_tag_congr`: tables with the same entries find the same.
-/

namespace FilterQuery.Text

/-- A text that ends at its first underscore. -/
def IsTag (text : Text) : Prop :=
  (cut '_' text).2 = some []

namespace IsTag

variable {tag other rest more : Text}

theorem exists_eq_concat (h : IsTag tag) : ∃ letters, '_' ∉ letters ∧ tag = letters ++ ['_'] :=
  ⟨_, notMem_cut '_' tag, eq_append_of_cut h⟩

theorem ne_nil (h : IsTag tag) : tag ≠ [] := by
  obtain ⟨letters, -, rfl⟩ := h.exists_eq_concat
  simp

/-- **No text opens with two tags.** -/
theorem append_inj (h : IsTag tag) (hother : IsTag other) (heq : tag ++ rest = other ++ more) :
    tag = other ∧ rest = more := by
  obtain ⟨letters, hletters, rfl⟩ := h.exists_eq_concat
  obtain ⟨letters', hletters', rfl⟩ := hother.exists_eq_concat
  have hcut := congrArg (cut '_') heq
  rw [List.append_assoc, List.append_assoc, List.singleton_append, List.singleton_append,
    cut_append_cons hletters, cut_append_cons hletters', Prod.mk.injEq,
    Option.some.injEq] at hcut
  obtain ⟨rfl, rfl⟩ := hcut
  exact ⟨rfl, rfl⟩

end IsTag

/-! ## Keys with an underscore -/

/-- A key is `tag` up to its first underscore, which belongs to it, and `rest` behind that. -/
def Opens (key tag rest : Text) : Prop :=
  ∃ letters, '_' ∉ letters ∧ tag = letters ++ ['_'] ∧ key = tag ++ rest

section Opens

variable {key tag other rest more : Text}

theorem isTag_concat {letters : Text} (h : '_' ∉ letters) : IsTag (letters ++ ['_']) := by
  rw [IsTag, cut_append_cons h]

theorem opens_iff : Opens key tag rest ↔ IsTag tag ∧ tag ++ rest = key := by
  constructor
  · rintro ⟨letters, hletters, rfl, rfl⟩
    exact ⟨isTag_concat hletters, rfl⟩
  · rintro ⟨htag, rfl⟩
    obtain ⟨letters, hletters, rfl⟩ := htag.exists_eq_concat
    exact ⟨letters, hletters, rfl, rfl⟩

theorem IsTag.opens_iff (h : IsTag tag) : Opens key tag rest ↔ tag ++ rest = key :=
  Text.opens_iff.trans (and_iff_right h)

/-- **A key says where its tag ends.** -/
theorem Opens.unique (h : Opens key tag rest) (hother : Opens key other more) :
    tag = other ∧ rest = more := by
  obtain ⟨htag, hkey⟩ := Text.opens_iff.mp h
  obtain ⟨htag', hkey'⟩ := Text.opens_iff.mp hother
  exact htag.append_inj htag' (hkey.trans hkey'.symm)

theorem exists_opens_iff : (∃ tag rest, Opens key tag rest) ↔ '_' ∈ key := by
  constructor
  · rintro ⟨tag, rest, letters, -, rfl, rfl⟩
    simp
  · intro hmem
    obtain ⟨letters, rest, rfl, hletters⟩ := List.eq_append_cons_of_mem hmem
    exact ⟨letters ++ ['_'], rest, letters, hletters, rfl, by simp⟩

end Opens

/-! ## Tables of tags -/

variable {α : Type} {tag : α → Text} {entries : List α} {entry : α} {key rest : Text}

/-- Nothing is found in a key that opens with none of the tags. -/
theorem findSome?_tag_eq_none_iff :
    (entries.findSome? fun entry => ((tag entry).isPrefixOf? key).map fun rest => (entry, rest)) =
      none ↔ ∀ entry ∈ entries, ¬ tag entry <+: key := by
  rw [List.findSome?_eq_none_iff]
  refine forall₂_congr fun entry _ => ?_
  rw [Option.map_eq_none_iff, ← Option.not_isSome_iff_eq_none,
    List.isSome_isPrefixOf?_eq_isPrefixOf, List.isPrefixOf_iff_prefix]

/-- Of entries with different tags the one that is found in a key is the one whose tag the key opens
with, wherever it stands among them. -/
theorem findSome?_tag_eq_some_iff (htag : ∀ entry ∈ entries, IsTag (tag entry))
    (hinj : ∀ entry ∈ entries, ∀ other ∈ entries, tag entry = tag other → entry = other) :
    (entries.findSome? fun entry => ((tag entry).isPrefixOf? key).map fun rest => (entry, rest)) =
      some (entry, rest) ↔ entry ∈ entries ∧ tag entry ++ rest = key := by
  constructor
  · intro hfound
    obtain ⟨candidate, hmem, hcandidate⟩ := List.exists_of_findSome?_eq_some hfound
    obtain ⟨text, htext, heq⟩ := Option.map_eq_some_iff.mp hcandidate
    cases heq
    exact ⟨hmem, List.isPrefixOf?_eq_some_iff_append_eq.mp htext⟩
  · rintro ⟨hmem, hkey⟩
    cases hfound : entries.findSome? fun entry =>
        ((tag entry).isPrefixOf? key).map fun rest => (entry, rest) with
    | none => exact absurd ⟨rest, hkey⟩ (findSome?_tag_eq_none_iff.mp hfound entry hmem)
    | some found =>
      obtain ⟨candidate, hcandidate, hsome⟩ := List.exists_of_findSome?_eq_some hfound
      obtain ⟨text, htext, rfl⟩ := Option.map_eq_some_iff.mp hsome
      -- the first match is the only one
      obtain ⟨hsame, rfl⟩ := (htag _ hcandidate).append_inj (htag _ hmem)
        ((List.isPrefixOf?_eq_some_iff_append_eq.mp htext).trans hkey.symm)
      rw [hinj _ hcandidate _ hmem hsame]

/-- Something is found exactly where a key is, up to its first underscore, one of the tags. -/
theorem isSome_findSome?_tag_iff (htag : ∀ entry ∈ entries, IsTag (tag entry)) :
    (entries.findSome? fun entry =>
        ((tag entry).isPrefixOf? key).map fun rest => (entry, rest)).isSome = true ↔
      ∃ text rest, Opens key text rest ∧ text ∈ entries.map tag := by
  rw [Option.isSome_iff_ne_none, Ne, findSome?_tag_eq_none_iff]
  simp only [not_forall, not_not, exists_prop]
  constructor
  · rintro ⟨entry, hmem, rest, hkey⟩
    exact ⟨tag entry, rest, (htag entry hmem).opens_iff.mpr hkey, List.mem_map_of_mem hmem⟩
  · rintro ⟨text, rest, hopens, hmem⟩
    obtain ⟨entry, hentry, rfl⟩ := List.mem_map.mp hmem
    exact ⟨entry, hentry, rest, (htag entry hentry).opens_iff.mp hopens⟩

/-- **The order of a table plays no part**: two tables with the same entries find the same. -/
theorem findSome?_tag_congr {others : List α} (htag : ∀ entry ∈ entries, IsTag (tag entry))
    (hinj : ∀ entry ∈ entries, ∀ other ∈ entries, tag entry = tag other → entry = other)
    (hsame : ∀ entry, entry ∈ others ↔ entry ∈ entries) :
    (others.findSome? fun entry => ((tag entry).isPrefixOf? key).map fun rest => (entry, rest)) =
      entries.findSome? fun entry =>
        ((tag entry).isPrefixOf? key).map fun rest => (entry, rest) := by
  have htag' : ∀ entry ∈ others, IsTag (tag entry) :=
    fun entry h => htag entry ((hsame entry).mp h)
  have hinj' : ∀ entry ∈ others, ∀ other ∈ others, tag entry = tag other → entry = other :=
    fun entry h other h' => hinj entry ((hsame entry).mp h) other ((hsame other).mp h')
  ext found
  rw [findSome?_tag_eq_some_iff htag' hinj', findSome?_tag_eq_some_iff htag hinj, hsame]

end FilterQuery.Text
