import FilterQuery.Proofs.Parameter.Roles

/-!
# The grammar of keys

The shortcode of a key is looked for in a table of many entries, from the first to the last, and a
search in another of two.  Nothing of this can be told from what is found.  A key with an underscore
has one part up to the first of them and one part behind it, and only the former is asked about: it
is the tag of a shortcode, the tag of a search, or neither.  There is no second reading, by a tag
that is shorter or stands earlier in a table.

* `Shortcode.split?_eq_some_iff_opens`, `SearchMode.split?_eq_some_iff_opens`: a key is split behind
  its first underscore.
* `SearchMode.splitIn?_eq_split?`: the order of the modes plays no part.
* `keys_split_at_first_underscore`: all of it together.
-/

namespace FilterQuery

/-- A key is split into a shortcode and a property behind its first underscore. -/
theorem Shortcode.split?_eq_some_iff_opens {key property : Text} {code : Shortcode} :
    split? key = some (code, property) ↔ code ∈ table ∧ Text.Opens key code.tag property := by
  rw [split?_eq_some_iff]
  exact and_congr_right fun hcode => (Text.IsTag.opens_iff (cut_tag code hcode)).symm

namespace SearchMode

variable {mode : SearchMode} {key fields : Text}

/-- A key is split into a mode and a text of fields behind its first underscore. -/
theorem split?_eq_some_iff_opens :
    split? key = some (mode, fields) ↔ Text.Opens key mode.tag fields :=
  split?_eq_some_iff.trans mode.isTag_tag.opens_iff.symm

theorem isSome_split?_iff : (split? key).isSome = true ↔
    ∃ tag rest, Text.Opens key tag rest ∧ tag ∈ all.map SearchMode.tag :=
  Text.isSome_findSome?_tag_iff fun mode _ => mode.isTag_tag

theorem splitIn?_eq_split? {modes : List SearchMode} (h : modes.Perm all) (key : Text) :
    splitIn? modes key = split? key :=
  Text.findSome?_tag_congr (fun mode _ => mode.isTag_tag) eq_of_tag_eq fun _ => h.mem_iff

end SearchMode

theorem mem_keyTags_iff {tag : Text} : tag ∈ keyTags ↔
    (∃ code ∈ Shortcode.table, code.tag = tag) ∨ ∃ mode : SearchMode, mode.tag = tag := by
  constructor
  · intro h
    rcases List.mem_append.mp h with hcode | hmode
    · exact Or.inl (List.mem_map.mp hcode)
    · rcases List.mem_pair.mp hmode with rfl | rfl
      · exact Or.inr ⟨.contains, rfl⟩
      · exact Or.inr ⟨.startsWith, rfl⟩
  · rintro (⟨code, hcode, rfl⟩ | ⟨mode, rfl⟩)
    · exact Shortcode.tag_mem_keyTags hcode
    · exact mode.tag_mem_keyTags

theorem opens_iff_of_mem_keyTags {key tag rest : Text} (h : tag ∈ keyTags) :
    Text.Opens key tag rest ↔ tag ++ rest = key :=
  (isTag_of_mem_keyTags tag h).opens_iff

/-- A key opens with no tag exactly when it is not one up to its first underscore. -/
theorem forall_keyTags_not_prefix_iff_opens {key : Text} :
    (∀ tag ∈ keyTags, ¬ tag <+: key) ↔ ∀ tag rest, Text.Opens key tag rest → tag ∉ keyTags := by
  constructor
  · intro h tag rest hopens htag
    exact h tag htag ⟨rest, (opens_iff_of_mem_keyTags htag).mp hopens⟩
  · rintro h tag htag ⟨rest, hkey⟩
    exact h tag rest ((opens_iff_of_mem_keyTags htag).mpr hkey) htag

/-- **A key is read by what stands up to its first underscore**, if there is one.  A shortcode is
found where this is the tag of one, and it is that one; the property is all that stands behind the
underscore, and the bytes of the shortcode end between two characters.  A search is found where it
is one of the two tags of searches, with the rest for the fields.  No key has both.  The two tables
may stand in any order, and whatever entry of them a key opens with is the one that is found. -/
theorem keys_split_at_first_underscore (key : Text) :
    ((∃ tag rest, Text.Opens key tag rest) ↔ '_' ∈ key) ∧
    ((Shortcode.split? key).isSome = true ↔
      ∃ tag rest, Text.Opens key tag rest ∧ tag ∈ Shortcode.table.map Shortcode.tag) ∧
    (∀ code property, Shortcode.split? key = some (code, property) ↔
      code ∈ Shortcode.table ∧ Text.Opens key code.tag property) ∧
    (∀ code property, Shortcode.split? key = some (code, property) →
      (∃ front, key = front ++ property ∧ (Utf8.encode front).length = code.tagBytes) ∧
      (Utf8.encode key).drop code.tagBytes = Utf8.encode property) ∧
    ((SearchMode.split? key).isSome = true ↔
      ∃ tag rest, Text.Opens key tag rest ∧ tag ∈ ["search_".toList, "searchsw_".toList]) ∧
    (∀ mode fields, SearchMode.split? key = some (mode, fields) ↔
      Text.Opens key mode.tag fields) ∧
    ¬ ((Shortcode.split? key).isSome = true ∧ (SearchMode.split? key).isSome = true) ∧
    (∀ codes, codes.Perm Shortcode.table → Shortcode.splitIn? codes key = Shortcode.split? key) ∧
    (∀ modes, modes.Perm SearchMode.all →
      SearchMode.splitIn? modes key = SearchMode.split? key) ∧
    (∀ code ∈ Shortcode.table, ∀ property, key = code.tag ++ property →
      Shortcode.split? key = some (code, property)) ∧
    ∀ (mode : SearchMode) (fields : Text), key = mode.tag ++ fields →
      SearchMode.split? key = some (mode, fields) := by
  refine ⟨Text.exists_opens_iff, Shortcode.isSome_split?_iff,
    fun _ _ => Shortcode.split?_eq_some_iff_opens, ?_, ?_,
    fun _ _ => SearchMode.split?_eq_some_iff_opens, ?_,
    fun _ hperm => Shortcode.splitIn?_eq_split? hperm key,
    fun _ hperm => SearchMode.splitIn?_eq_split? hperm key, ?_, ?_⟩
  · intro code property hsplit
    obtain ⟨-, rfl⟩ := Shortcode.split?_eq_some_iff.mp hsplit
    exact ⟨⟨code.tag, rfl, rfl⟩, code.drop_tagBytes property⟩
  · have htags : ∀ tag, tag ∈ SearchMode.all.map SearchMode.tag ↔
        tag ∈ ["search_".toList, "searchsw_".toList] :=
      fun tag => (List.Perm.swap _ _ _).mem_iff
    simp only [SearchMode.isSome_split?_iff, htags]
  · rintro ⟨hcode, hmode⟩
    obtain ⟨⟨mode, fields⟩, hsplit⟩ := Option.isSome_iff_exists.mp hmode
    have hnone := SearchMode.shortcode_split?_eq_none (SearchMode.split?_eq_some_iff.mp hsplit)
    simp [hnone] at hcode
  · intro code hcode property hkey
    exact Shortcode.split?_eq_some_iff.mpr ⟨hcode, hkey.symm⟩
  · intro mode fields hkey
    exact SearchMode.split?_eq_some_iff.mpr hkey.symm

/-- A key with three shortcodes one behind another, and a search that names nothing but another
search, both looked up in tables that stand the other way round. -/
theorem keys_split_at_first_underscore_reversed :
    let key := "eql_sw__gt_é".toList
    let property := "sw__gt_é".toList
    let code : Shortcode := ⟨"eql_".toList, .eq, some .lower⟩
    let search := "search_searchsw_".toList
    let fields := "searchsw_".toList
    code ∈ Shortcode.table ∧ key = code.tag ++ property ∧
    Shortcode.split? key = some (code, property) ∧
    (Utf8.encode key).drop code.tagBytes = Utf8.encode property ∧
    Shortcode.table.reverse.Perm Shortcode.table ∧
    Shortcode.splitIn? Shortcode.table.reverse key = some (code, property) ∧
    SearchMode.split? key = none ∧
    search = SearchMode.contains.tag ++ fields ∧
    SearchMode.all.reverse.Perm SearchMode.all ∧
    SearchMode.splitIn? SearchMode.all.reverse search = some (.contains, fields) := by
  intro key property code search fields
  obtain ⟨-, -, -, hbytes, -, -, hapart, hcodes, -, hfound, -⟩ := keys_split_at_first_underscore key
  obtain ⟨-, -, -, -, -, -, -, -, hmodes, -, hsearch⟩ := keys_split_at_first_underscore search
  have hmem : code ∈ Shortcode.table := by decide
  have hsplit : Shortcode.split? key = some (code, property) := hfound code hmem property rfl
  have hcodesReversed : Shortcode.table.reverse.Perm Shortcode.table := List.reverse_perm _
  have hmodesReversed : SearchMode.all.reverse.Perm SearchMode.all := List.reverse_perm _
  have hnone : SearchMode.split? key = none := by
    by_contra hsome
    exact hapart ⟨by rw [hsplit]; rfl, Option.isSome_iff_ne_none.mpr hsome⟩
  exact ⟨hmem, rfl, hsplit, (hbytes code property hsplit).2, hcodesReversed,
    (hcodes _ hcodesReversed).trans hsplit, hnone, rfl, hmodesReversed,
    (hmodes _ hmodesReversed).trans (hsearch .contains fields rfl)⟩

end FilterQuery
