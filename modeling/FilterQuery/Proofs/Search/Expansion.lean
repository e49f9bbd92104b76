import FilterQuery.Proofs.Parameter.Groups
import Mathlib.Logic.ExistsUnique

/-!
# What a search becomes

The text behind the tag of a search names fields, with underscores between them.  How many
underscores there are, and whether some stand at either end, plays no part.  They are gone before it
is settled which fragment opens the group, so this is the one of the first field, wherever in the
text it stands.  Two texts with an underscore between them name the fields of the one and then those
of the other, and make one group.

* `Text.IsRow`, `Text.Names`: names in a row, and the texts that name them.
* `Text.existsUnique_names`: what a text names.
* `SearchMode.getElem?_group`: each fragment of a search.
* `SearchMode.group_append`: fields in two goes.
* `SearchMode.search_expands`: all of it together.
-/

namespace FilterQuery

/-! ## Texts that name fields -/

namespace Text

/-- Names in a row, with one or more underscores between two of them. -/
inductive IsRow : List Text → Text → Prop
  | nil : IsRow [] []
  | single (name : Text) : IsRow [name] name
  | cons (name : Text) (gap : Nat) {next row : Text} {others : List Text}
      (h : IsRow (next :: others) row) :
      IsRow (name :: next :: others) (name ++ List.replicate (gap + 1) '_' ++ row)

/-- A text names fields: it is their names in a row, with any number of underscores in front of them
and behind. -/
structure Names (text : Text) (names : List Text) : Prop where
  ne_nil : ∀ name ∈ names, name ≠ []
  /-- A name ends where the next underscore stands. -/
  notMem : ∀ name ∈ names, '_' ∉ name
  row : ∃ before row after, IsRow names row ∧
    text = List.replicate before '_' ++ row ++ List.replicate after '_'

variable {text row name : Text} {names : List Text}

theorem IsRow.words_eq (h : IsRow names row) (hne : ∀ name ∈ names, name ≠ [])
    (hmem : ∀ name ∈ names, '_' ∉ name) : words '_' row = names := by
  induction h with
  | nil => rfl
  | single name =>
    exact words_of_notMem (hne name List.mem_cons_self) (hmem name List.mem_cons_self)
  | cons name gap h ih =>
    rw [List.forall_mem_cons] at hne hmem
    rw [List.append_assoc, List.replicate_succ, List.cons_append, words_append_cons,
      words_replicate_append, words_of_notMem hne.1 hmem.1, ih hne.2 hmem.2,
      List.singleton_append]

/-- The names are the parts of the text that are not empty. -/
theorem Names.words_eq (h : Names text names) : words '_' text = names := by
  obtain ⟨before, row, after, hrow, rfl⟩ := h.row
  rw [words_append_replicate, words_replicate_append]
  exact hrow.words_eq h.ne_nil h.notMem

/-! ### Every text names fields -/

theorem names_nil : Names [] [] :=
  ⟨by simp, by simp, 0, [], 0, .nil, rfl⟩

theorem names_of_notMem (hne : name ≠ []) (h : '_' ∉ name) : Names name [name] :=
  ⟨by simpa using hne, by simpa using h, 0, name, 0, .single name, by simp⟩

/-- An underscore in front names nothing. -/
theorem Names.underscore_cons (h : Names text names) : Names ('_' :: text) names := by
  obtain ⟨before, row, after, hrow, rfl⟩ := h.row
  exact ⟨h.ne_nil, h.notMem, before + 1, row, after, hrow, rfl⟩

/-- A name in front, and an underscore behind it. -/
theorem Names.name_cons (hne : name ≠ []) (hname : '_' ∉ name) (h : Names text names) :
    Names (name ++ '_' :: text) (name :: names) := by
  refine ⟨List.forall_mem_cons.mpr ⟨hne, h.ne_nil⟩, List.forall_mem_cons.mpr ⟨hname, h.notMem⟩, ?_⟩
  obtain ⟨before, row, after, hrow, rfl⟩ := h.row
  cases hrow with
  | nil =>
    -- only underscores follow, so they stand behind the last name
    refine ⟨0, name, before + (after + 1), .single name, ?_⟩
    rw [List.append_nil, List.replicate_append_replicate, ← List.replicate_succ]
    rfl
  | single =>
    refine ⟨0, _, after, .cons name before (.single _), ?_⟩
    simp [List.replicate_succ]
  | cons next gap hrest =>
    refine ⟨0, _, after, .cons name before (.cons next gap hrest), ?_⟩
    simp [List.replicate_succ]

theorem names_words (text : Text) : Names text (words '_' text) := by
  by_cases hmem : '_' ∈ text
  · obtain ⟨name, rest, htext, hname⟩ := List.eq_append_cons_of_mem hmem
    have hlt : rest.length < text.length := by
      rw [htext, List.length_append, List.length_cons]
      omega
    have hrest := names_words rest
    rw [htext, words_append_cons]
    by_cases hne : name = []
    · subst hne
      exact hrest.underscore_cons
    · rw [words_of_notMem hne hname]
      exact hrest.name_cons hne hname
  · by_cases hne : text = []
    · subst hne
      exact names_nil
    · rw [words_of_notMem hne hmem]
      exact names_of_notMem hne hmem
termination_by text.length

/-- **A text names just one list of fields.** -/
theorem existsUnique_names (text : Text) : ∃! names, Names text names :=
  ⟨_, names_words text, fun _ h => h.words_eq.symm⟩

end Text

namespace SearchMode

variable {mode : SearchMode} {term value : Text}

/-! ## The fragments -/

theorem value_search (mode : SearchMode) (fields value : Text) :
    (mode.search fields value).value =
      mode.group (Text.lowercase value) (Text.words '_' fields) := rfl

theorem length_group (mode : SearchMode) (term : Text) (fields : List Text) :
    (mode.group term fields).length = fields.length := by
  have hsql := congrArg List.length (map_sql_group mode term fields)
  rwa [List.length_map, List.length_map] at hsql

theorem group_eq_nil_iff {fields : List Text} : mode.group term fields = [] ↔ fields = [] := by
  rw [← List.length_eq_zero_iff, length_group, List.length_eq_zero_iff]

/-- Each field has a fragment at its place, and the first one opens the group. -/
theorem getElem?_group (mode : SearchMode) (term : Text) {fields : List Text} {i : Nat}
    {field : Text} (h : fields[i]? = some field) :
    (mode.group term fields)[i]? =
      some (mode.fragment (if i = 0 then .sql else .sqlUnion) term field) := by
  cases fields with
  | nil => simp at h
  | cons first others =>
    cases i with
    | zero =>
      obtain rfl : first = field := by simpa using h
      rfl
    | succ i =>
      rw [List.getElem?_cons_succ] at h
      rw [group, List.getElem?_cons_succ, List.getElem?_map, h, if_neg (Nat.succ_ne_zero i)]
      rfl

/-- **Fields in two goes**: the fragment that would open the second group continues the first, if
there is one. -/
theorem group_append (mode : SearchMode) (term : Text) (front back : List Text) :
    mode.group term (front ++ back) =
      mode.group term front ++
        if front = [] then mode.group term back
        else (mode.group term back).modifyHead fun fragment =>
          { fragment with operation := .sqlUnion } := by
  cases front with
  | nil => rfl
  | cons first others =>
    rw [if_neg (List.cons_ne_nil _ _), List.cons_append, group, group, List.map_append,
      List.cons_append]
    cases back with
    | nil => rfl
    | cons next more => rfl

/-- **A search becomes one fragment for each field that its text names**, in their order.  The
fragment has no property and no transform; the first opens the group and the others continue it; its
expression asks for the value in the field, which is capitalised, and its value is in lower case.
Nothing else of the text plays a part, and every text names just one list of fields.  Two texts with
an underscore between them become the fragments of the first and those of the second, of which none
opens a group if there are any before it. -/
theorem search_expands (mode : SearchMode) (value : Text) :
    (∀ fields names, Text.Names fields names →
      (mode.search fields value).value.length = names.length ∧
      ∀ i name, names[i]? = some name →
        (mode.search fields value).value[i]? = some
          ({ property := none
             operation := if i = 0 then .sql else .sqlUnion
             transform := none
             value := Text.lowercase value
             sql := some (Text.capitalize name ++ match mode with
               | .contains => ".ToLower().Contains(@0)".toList
               | .startsWith => ".ToLower().StartsWith(@0)".toList) } : Descriptor)) ∧
    (∀ fields, ∃! names, Text.Names fields names) ∧
    ∀ front back,
      (mode.search (front ++ '_' :: back) value).value =
        (mode.search front value).value ++
          if (mode.search front value).value = [] then (mode.search back value).value
          else (mode.search back value).value.modifyHead fun fragment =>
            { fragment with operation := .sqlUnion } := by
  refine ⟨?_, Text.existsUnique_names, ?_⟩
  · intro fields names hnames
    rw [value_search, hnames.words_eq]
    refine ⟨mode.length_group _ names, ?_⟩
    intro i name hname
    rw [mode.getElem?_group _ hname, fragment, template_eq_append]
    cases mode with
    | contains => rfl
    | startsWith => rfl
  · intro front back
    simp only [value_search, Text.words_append_cons, group_append, group_eq_nil_iff]

/-- Underscores in a row and at both ends, letters that become several in upper case or in lower
case, a sigma at the end of a word, and two texts with underscores where they meet. -/
theorem search_expands_letters :
    let fields := "__first___ß_ŉame_".toList
    let names := ["first".toList, "ß".toList, "ŉame".toList]
    let found := (startsWith.search fields "AΣ İ".toList).value
    Text.Names fields names ∧
    found.length = 3 ∧
    found[0]? = some
      (.fragment .sql "First.ToLower().StartsWith(@0)".toList "aς i\u0307".toList) ∧
    found[1]? = some
      (.fragment .sqlUnion "SS.ToLower().StartsWith(@0)".toList "aς i\u0307".toList) ∧
    found[2]? = some
      (.fragment .sqlUnion "ʼName.ToLower().StartsWith(@0)".toList "aς i\u0307".toList) ∧
    (startsWith.search ("_a_".toList ++ '_' :: "__b".toList) []).value =
      [.fragment .sql "A.ToLower().StartsWith(@0)".toList [],
        .fragment .sqlUnion "B.ToLower().StartsWith(@0)".toList []] := by
  intro fields names found
  have hnames : Text.Names fields names :=
    ⟨by decide, by decide, 2, _, 1, .cons _ 2 (.cons _ 0 (.single _)), by decide⟩
  obtain ⟨hexpands, -, -⟩ := startsWith.search_expands "AΣ İ".toList
  obtain ⟨-, -, happend⟩ := startsWith.search_expands []
  obtain ⟨hlength, hentry⟩ := hexpands fields names hnames
  refine ⟨hnames, hlength, (hentry 0 _ rfl).trans ?_, (hentry 1 _ rfl).trans ?_,
    (hentry 2 _ rfl).trans ?_, ?_⟩
  · decide +kernel
  · decide +kernel
  · decide +kernel
  · rw [happend]
    decide +kernel

end SearchMode

end FilterQuery
