/-!
# Text as a list of characters

Keys, values, URLs and JSON documents are all texts, and every rule of this library goes over a
text from the left.  A text is therefore the list of its characters: a rule is a recursion on that
list, and a statement about texts is proved by induction on it.

* `Text.pieces`: the parts between the occurrences of a separator.
* `Text.cut`: a text up to the first occurrence of a character, and what follows it.
* `Text.words`: the parts that are not empty.
-/

namespace FilterQuery

/-- A text is the list of its characters. -/
abbrev Text := List Char

namespace Text

/-! ## Cutting a text at a separator -/

/-- The parts of a text between the occurrences of `sep`.  There is one part more than there are
separators, so an empty text has one empty part. -/
def pieces (sep : Char) : Text → List Text
  | [] => [[]]
  | c :: rest =>
    if c = sep then
      [] :: pieces sep rest
    else
      match pieces sep rest with
      | first :: others => (c :: first) :: others
      | [] => [[c]]

/-- The parts of a text between the occurrences of `sep` that are not empty. -/
def words (sep : Char) (text : Text) : List Text :=
  (pieces sep text).filter fun part => !part.isEmpty

/-- What stands before the first `sep`, and what stands after it.  Without a `sep` there is
nothing after it. -/
def cut (sep : Char) : Text → Text × Option Text
  | [] => ([], none)
  | c :: rest =>
    if c = sep then
      ([], some rest)
    else
      (c :: (cut sep rest).1, (cut sep rest).2)

@[simp] theorem pieces_nil (sep : Char) : pieces sep [] = [[]] := rfl

@[simp] theorem pieces_sep_cons (sep : Char) (rest : Text) :
    pieces sep (sep :: rest) = [] :: pieces sep rest := by
  simp [pieces]

theorem pieces_ne_nil (sep : Char) (text : Text) : pieces sep text ≠ [] := by
  induction text with
  | nil => simp
  | cons c rest _ =>
    unfold pieces
    split
    · simp
    · split <;> simp

/-- A character other than the separator joins the first part. -/
theorem pieces_cons_of_ne {sep c : Char} (h : c ≠ sep) (rest : Text) :
    ∃ first others, pieces sep rest = first :: others ∧
      pieces sep (c :: rest) = (c :: first) :: others := by
  cases hp : pieces sep rest with
  | nil => exact absurd hp (pieces_ne_nil sep rest)
  | cons first others => exact ⟨first, others, rfl, by simp [pieces, h, hp]⟩

end Text

end FilterQuery
