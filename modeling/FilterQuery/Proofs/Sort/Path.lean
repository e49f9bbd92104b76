import FilterQuery.Proofs.Text.Pieces
import FilterQuery.Proofs.Text.UpperCase
import FilterQuery.Sort

/-!
# The path of a property, segment by segment

A property is written with dots or slashes between the segments of its path, and sent with slashes.
What is sent has just the segments that were written, the first of them with its first character in
upper case; a segment may be empty, and then there is no character to change, not even one behind
the mark.  What is sent can be written again and is sent as it is, because upper case brings no mark
in and is left alone itself.

* `splitOn_slashed`: slashes for dots keep the segments.
* `Text.splitOn_capitalize`: upper case changes the first segment only.
* `normalize_normalize`: a path that has been sent is sent as it is.
* `normalize_by_segments`: all of it together.
-/

namespace FilterQuery

namespace Text

/-! ## Upper case and marks -/

/-- A mark below the letters is its own upper case. -/
theorem upperChar_slash : upperChar '/' = ['/'] := by
  decide +kernel

/-- **Upper case changes the first part only**, when a text is cut at slashes. -/
theorem splitOn_capitalize (text : Text) :
    (capitalize text).splitOn '/' = (text.splitOn '/').modifyHead capitalize := by
  cases text with
  | nil => rfl
  | cons c rest =>
    by_cases hc : c = '/'
    · subst hc
      rw [capitalize, upperChar_slash, List.singleton_append, List.splitOn_cons_eq_if_modifyHead]
      rfl
    · have hupper : '/' ∉ upperChar c := by
        intro hmem
        rcases mem_upperChar hmem with h | h
        · exact hc h.symm
        · exact absurd h (by decide)
      rw [capitalize, splitOn_append_of_notMem hupper, List.splitOn_cons_eq_if_modifyHead,
        if_neg (by simpa using hc), List.modifyHead_modifyHead]
      rfl

end Text

end FilterQuery

namespace FilterQuery.Sort

/-! ## Slashes for dots -/

/-- A path with slashes for its dots. -/
def slashed (path : Text) : Text :=
  path.map fun c => if c = '.' then '/' else c

theorem normalize_eq (property : Text) : normalize property = Text.capitalize (slashed property) :=
  rfl

/-- **Slashes for dots keep the segments.** -/
theorem splitOn_slashed (path : Text) :
    (slashed path).splitOn '/' = path.splitOnP fun c => c == '.' || c == '/' := by
  induction path with
  | nil => rfl
  | cons c rest ih =>
    have hcons : slashed (c :: rest) = (if c = '.' then '/' else c) :: slashed rest := rfl
    rw [hcons, List.splitOn_cons_eq_if_modifyHead, ih, List.splitOnP_cons_eq_if_modifyHead]
    by_cases hdot : c = '.'
    · subst hdot
      rfl
    · rw [if_neg hdot]
      by_cases hslash : c = '/'
      · subst hslash
        rfl
      · rw [if_neg (by simpa using hslash), if_neg (by simp [hdot, hslash])]

theorem dot_notMem_slashed (path : Text) : '.' ∉ slashed path := by
  intro h
  obtain ⟨c, -, hc⟩ := List.mem_map.mp h
  split at hc
  case isTrue => exact absurd hc (by decide)
  case isFalse hne => exact hne hc

theorem slashed_of_notMem {path : Text} (h : '.' ∉ path) : slashed path = path := by
  have hsame : ∀ c ∈ path, (if c = '.' then '/' else c) = c := by
    intro c hc
    rw [if_neg (by rintro rfl; exact h hc)]
  rw [slashed, List.map_congr_left hsame, List.map_id']

/-! ## The path as it is sent -/

theorem dot_notMem_normalize (property : Text) : '.' ∉ normalize property := fun h =>
  dot_notMem_slashed property (Text.mem_of_mem_capitalize h (by decide))

/-- **A path that has been sent is sent as it is.** -/
theorem normalize_normalize (property : Text) :
    normalize (normalize property) = normalize property := by
  rw [normalize_eq, slashed_of_notMem (dot_notMem_normalize property), normalize_eq,
    Text.capitalize_capitalize]

/-- **A path is sent segment by segment.**  What is sent has no dot.  Cut at slashes it has as many
segments as the property has between its dots and slashes, the first one with its first character in
upper case and all the others as they are.  To send it again changes nothing, and neither does upper
case of what is in upper case; so a property and its path as it is sent have one and the same order,
ascending and descending, whatever the URL is and whether an order is open or not. -/
theorem normalize_by_segments (property : Text) :
    '.' ∉ normalize property ∧
    (∃ first others, (property.splitOnP fun c => c == '.' || c == '/') = first :: others ∧
      (normalize property).splitOn '/' = Text.capitalize first :: others) ∧
    normalize (normalize property) = normalize property ∧
    Text.capitalize (Text.capitalize property) = Text.capitalize property ∧
    ∀ url,
      ascendingExtension url (normalize property) = ascendingExtension url property ∧
      ∀ isOpen, descendingExtension url isOpen (normalize property) =
        descendingExtension url isOpen property := by
  have hsame := normalize_normalize property
  refine ⟨dot_notMem_normalize property, ?_, hsame, Text.capitalize_capitalize property, ?_⟩
  · obtain ⟨first, others, hsegments⟩ :=
      List.exists_cons_of_ne_nil (List.splitOnP_ne_nil (fun c => c == '.' || c == '/') property)
    refine ⟨first, others, hsegments, ?_⟩
    rw [normalize_eq, Text.splitOn_capitalize, splitOn_slashed, hsegments]
    rfl
  · intro url
    refine ⟨?_, fun isOpen => ?_⟩
    · rw [ascendingExtension, ascendingExtension, hsame]
    · rw [descendingExtension, descendingExtension, descending, descending, hsame]

/-- A mark at the front leaves nothing to put in upper case; a letter may become two. -/
example :
    normalize ".ŉame..ﬁ".toList = "/ŉame//ﬁ".toList ∧
      normalize "ŉame.ﬁ/".toList = "ʼName/ﬁ/".toList := by
  decide +kernel

end FilterQuery.Sort
