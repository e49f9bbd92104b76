import FilterQuery.Text.Basic

/-!
# Taking apart what was joined

`Text.pieces` is splitting at a character as core knows it, so what core proves of splitting and
joining holds of pieces.  `Text.cut` stops at the first separator: a front without one comes back
whole, whatever follows.

* `pieces_eq_splitOn`: the bridge to core.
* `splitOn_append_of_notMem`: a front without the separator.
* `words_append_cons`: the words on both sides of a separator.
* `words_eq_nil_iff`: the texts that have no part that is not empty.
* `pieces_intercalate`: texts without the separator come back from their join.
* `intercalate_map_intercalate`: a join of joins is one join.
* `cut_append_cons`: the front before the first separator.
* `eq_append_of_cut`: a text from its front and what follows.
-/

namespace FilterQuery.Text

variable {sep : Char}

theorem pieces_eq_splitOn (sep : Char) (text : Text) : pieces sep text = text.splitOn sep := by
  induction text with
  | nil => rfl
  | cons c rest ih =>
    rw [List.splitOn_cons_eq_if_modifyHead, ← ih]
    by_cases h : c = sep
    · subst h
      simp
    · obtain ⟨first, others, hp, hc⟩ := pieces_cons_of_ne h rest
      rw [hc, hp, if_neg (by simpa using h)]
      rfl

/-- A front without the separator belongs to the first part of what follows. -/
theorem splitOn_append_of_notMem {front : Text} (h : sep ∉ front) (back : Text) :
    (front ++ back).splitOn sep = (back.splitOn sep).modifyHead (front ++ ·) := by
  induction front with
  | nil =>
    obtain ⟨first, others, hparts⟩ := List.exists_cons_of_ne_nil (List.splitOn_ne_nil sep back)
    rw [List.nil_append, hparts]
    rfl
  | cons c rest ih =>
    rw [List.mem_cons, not_or] at h
    rw [List.cons_append, List.splitOn_cons_eq_if_modifyHead, if_neg (by simpa using Ne.symm h.1),
      ih h.2, List.modifyHead_modifyHead]
    rfl

theorem words_eq_filter_splitOn (sep : Char) (text : Text) :
    words sep text = (text.splitOn sep).filter fun part => part ≠ [] := by
  rw [words, pieces_eq_splitOn]
  refine List.filter_congr fun part _ => ?_
  cases part <;> rfl

/-- **The words on both sides of a separator** are the words of a text. -/
theorem words_append_cons (front back : Text) :
    words sep (front ++ sep :: back) = words sep front ++ words sep back := by
  rw [words_eq_filter_splitOn, List.splitOn_append_cons_self, List.filter_append,
    ← words_eq_filter_splitOn, ← words_eq_filter_splitOn]

theorem words_nil (sep : Char) : words sep [] = [] := rfl

/-- A separator at the front belongs to no word. -/
theorem words_sep_cons (text : Text) : words sep (sep :: text) = words sep text := by
  rw [← List.nil_append (sep :: text), words_append_cons, words_nil, List.nil_append]

/-- A text without the separator is one word, unless it is empty. -/
theorem words_of_notMem {text : Text} (hne : text ≠ []) (h : sep ∉ text) :
    words sep text = [text] := by
  rw [words_eq_filter_splitOn, List.splitOn_eq_singleton h,
    List.filter_cons_of_pos (by simpa using hne), List.filter_nil]

/-- Separators at the front belong to no word. -/
theorem words_replicate_append (n : Nat) (text : Text) :
    words sep (List.replicate n sep ++ text) = words sep text := by
  induction n with
  | zero => rfl
  | succ n ih => rw [List.replicate_succ, List.cons_append, words_sep_cons, ih]

/-- Separators at the end belong to no word. -/
theorem words_append_replicate (text : Text) (n : Nat) :
    words sep (text ++ List.replicate n sep) = words sep text := by
  cases n with
  | zero => rw [List.replicate_zero, List.append_nil]
  | succ n =>
    rw [List.replicate_succ, words_append_cons, ← List.append_nil (List.replicate n sep),
      words_replicate_append, words_nil, List.append_nil]

/-- Every part of a text is empty exactly when the text consists of separators. -/
theorem words_eq_nil_iff {text : Text} : words sep text = [] ↔ ∀ c ∈ text, c = sep := by
  induction text with
  | nil => simp [words]
  | cons c rest ih =>
    rw [List.forall_mem_cons]
    by_cases h : c = sep
    · subst h
      rw [words_sep_cons, ih]
      exact (and_iff_right rfl).symm
    · obtain ⟨first, others, -, hc⟩ := pieces_cons_of_ne h rest
      rw [words, hc, List.filter_cons_of_pos (by simp)]
      exact iff_of_false (List.cons_ne_nil _ _) fun hall => h hall.1

/-- Texts without the separator come back from their join. -/
theorem pieces_intercalate {parts : List Text} (hne : parts ≠ [])
    (h : ∀ part ∈ parts, sep ∉ part) : pieces sep (List.intercalate [sep] parts) = parts := by
  rw [pieces_eq_splitOn]
  exact List.splitOn_intercalate sep h hne

/-- A front without the separator is what stands before the first one. -/
theorem cut_append_cons {front : Text} (h : sep ∉ front) (back : Text) :
    cut sep (front ++ sep :: back) = (front, some back) := by
  induction front with
  | nil => simp [cut]
  | cons c rest ih =>
    rw [List.mem_cons, not_or] at h
    rw [List.cons_append, cut, if_neg (Ne.symm h.1), ih h.2]

/-- What stands before the first separator has none. -/
theorem notMem_cut (sep : Char) (text : Text) : sep ∉ (cut sep text).1 := by
  induction text with
  | nil => simp [cut]
  | cons c rest ih =>
    by_cases h : c = sep
    · simp [cut, h]
    · rw [cut, if_neg h, List.mem_cons, not_or]
      exact ⟨Ne.symm h, ih⟩

/-- A text with a separator is what stands before the first one and what stands after it. -/
theorem eq_append_of_cut {text back : Text} (h : (cut sep text).2 = some back) :
    text = (cut sep text).1 ++ sep :: back := by
  induction text with
  | nil => simp [cut] at h
  | cons c rest ih =>
    by_cases hc : c = sep
    · rw [cut, if_pos hc] at h ⊢
      rw [hc, Option.some.inj h, List.nil_append]
    · rw [cut, if_neg hc] at h ⊢
      rw [List.cons_append, ← ih h]

/-- A join of two stretches of parts has the separator between them. -/
theorem intercalate_append {front back : List Text} (hf : front ≠ []) (hb : back ≠ []) :
    List.intercalate [sep] (front ++ back) =
      List.intercalate [sep] front ++ sep :: List.intercalate [sep] back := by
  induction front with
  | nil => exact absurd rfl hf
  | cons part rest ih =>
    rw [List.cons_append, List.intercalate_cons_of_ne_nil (by simp [hb])]
    cases rest with
    | nil => simp
    | cons next more =>
      rw [ih (by simp), List.intercalate_cons_cons]
      simp

/-- **Joins compose**: groups of parts that are joined and joined again are their parts joined at
once, where no group is empty. -/
theorem intercalate_map_intercalate {groups : List (List Text)} (h : ∀ group ∈ groups, group ≠ []) :
    List.intercalate [sep] (groups.map (List.intercalate [sep])) =
      List.intercalate [sep] groups.flatten := by
  induction groups with
  | nil => rfl
  | cons group others ih =>
    rw [List.forall_mem_cons] at h
    by_cases hothers : others = []
    · subst hothers
      rw [List.map_cons, List.map_nil, List.intercalate_singleton, List.flatten_singleton]
    · have hflatten : others.flatten ≠ [] := by
        intro hnil
        obtain ⟨other, hmem⟩ := List.exists_mem_of_ne_nil others hothers
        exact h.2 other hmem (List.flatten_eq_nil_iff.mp hnil other hmem)
      rw [List.flatten_cons, intercalate_append h.1 hflatten, ← ih h.2, List.map_cons,
        List.intercalate_cons_of_ne_nil (by simpa using hothers), List.append_assoc,
        List.singleton_append]

/-- A join ends with its last part. -/
theorem exists_intercalate_concat (sep : Char) (front : List Text) (last : Text) :
    ∃ before, List.intercalate [sep] (front ++ [last]) = before ++ last := by
  by_cases hf : front = []
  · subst hf
    exact ⟨[], by simp⟩
  · rw [intercalate_append hf (by simp), List.intercalate_singleton]
    exact ⟨List.intercalate [sep] front ++ [sep], by simp⟩

/-- A character of a join is the separator or comes from one of the parts. -/
theorem mem_intercalate {c : Char} {parts : List Text} (h : c ∈ List.intercalate [sep] parts) :
    c = sep ∨ ∃ part ∈ parts, c ∈ part := by
  induction parts with
  | nil => simp at h
  | cons part rest ih =>
    by_cases hr : rest = []
    · subst hr
      rw [List.intercalate_singleton] at h
      exact Or.inr ⟨part, List.mem_cons_self, h⟩
    · rw [List.intercalate_cons_of_ne_nil hr, List.mem_append, List.mem_append,
        List.mem_singleton] at h
      rcases h with (h | h) | h
      · exact Or.inr ⟨part, List.mem_cons_self, h⟩
      · exact Or.inl h
      · rcases ih h with h | ⟨other, ho, hc⟩
        · exact Or.inl h
        · exact Or.inr ⟨other, List.mem_cons_of_mem _ ho, hc⟩

end FilterQuery.Text
