import FilterQuery.Proofs.Text.Pieces
import FilterQuery.QueryString

/-!
# Query strings that grow

Parameters may be appended to a URL all at once or in several goes: the URL is the same.  What makes
this true is the mark.  It is found by looking for `?` in the URL so far, and once anything has been
appended there is one, either in the endpoint or put there by the first mark.

The value of the last parameter stands at the end of the URL, so writing the code of more text there
makes that value longer and changes nothing else.

* `extension_append`: parameters in two goes.
* `extension_concat_append`: more text behind the last value.
-/

namespace FilterQuery.QueryString

variable {url : Text} {parameters : List (Text × Text)}

@[simp] theorem extension_nil (url : Text) : extension url [] = [] := rfl

theorem extension_of_ne_nil (h : parameters ≠ []) :
    extension url parameters = joinMark url :: write parameters := by
  rw [extension, if_neg (by simpa using h)]

theorem extension_eq_nil_iff : extension url parameters = [] ↔ parameters = [] := by
  constructor
  · intro h
    by_cases hne : parameters = []
    · exact hne
    · rw [extension_of_ne_nil hne] at h
      exact absurd h (List.cons_ne_nil _ _)
  · rintro rfl
    rfl

/-- Once something has been appended there is a question mark. -/
theorem joinMark_append_extension (h : parameters ≠ []) :
    joinMark (url ++ extension url parameters) = '&' := by
  refine if_pos (List.mem_append.mpr ?_)
  by_cases hu : '?' ∈ url
  · exact Or.inl hu
  · right
    rw [extension_of_ne_nil h, joinMark, if_neg hu]
    exact List.mem_cons_self

theorem write_append {front back : List (Text × Text)} (hf : front ≠ []) (hb : back ≠ []) :
    write (front ++ back) = write front ++ '&' :: write back := by
  rw [write, List.map_append]
  exact Text.intercalate_append (by simpa using hf) (by simpa using hb)

/-- **Parameters can be appended in two goes**, the second of which finds its mark in the URL that
the first has left. -/
theorem extension_append (url : Text) (front back : List (Text × Text)) :
    extension url (front ++ back) =
      extension url front ++ extension (url ++ extension url front) back := by
  by_cases hf : front = []
  · subst hf
    simp
  by_cases hb : back = []
  · subst hb
    simp
  · rw [extension_of_ne_nil (by simp [hf]), extension_of_ne_nil hb,
      joinMark_append_extension hf, extension_of_ne_nil hf, write_append hf hb, List.cons_append]

theorem writeOne_append (name value more : Text) :
    writeOne (name, value ++ more) = writeOne (name, value) ++ Percent.encode more := by
  simp [writeOne]

/-- **The code of more text makes the last value longer.** -/
theorem extension_concat_append (url : Text) (front : List (Text × Text))
    (name value more : Text) :
    extension url (front ++ [(name, value ++ more)]) =
      extension url (front ++ [(name, value)]) ++ Percent.encode more := by
  have hlast : ∀ url, extension url [(name, value ++ more)] =
      extension url [(name, value)] ++ Percent.encode more := by
    intro url
    rw [extension_of_ne_nil (by simp), extension_of_ne_nil (by simp)]
    simp [write, writeOne_append]
  rw [extension_append, hlast, extension_append url front [(name, value)], List.append_assoc]

end FilterQuery.QueryString
