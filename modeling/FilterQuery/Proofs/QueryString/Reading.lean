import FilterQuery.Proofs.Percent.RoundTrip
import FilterQuery.Proofs.QueryString.Growth

/-!
# What a receiver reads

A receiver drops the mark behind the endpoint, splits the rest at every `&`, splits each piece at
its first `=` and decodes the value.  `Reads` says that this gives a list of parameters, whether or
not the receiver takes a plus sign for a space.  It leaves no choice: a text reads as one list.

* `Reads`: what it means that a text behind an endpoint reads as a list of parameters.
* `reads_extension`: what parameters append to a URL reads as these parameters.
* `Reads.unique`: a text does not read as two lists.
-/

namespace FilterQuery.QueryString

/-- The parameters of a text, by a reader that decodes values in a way of its own. -/
def readWith (decode : Text → Text) (text : Text) : List (Text × Text) :=
  if text.isEmpty then
    []
  else
    (Text.pieces '&' text).map fun piece =>
      ((Text.cut '=' piece).1, decode ((Text.cut '=' piece).2.getD []))

theorem read_eq_readWith (text : Text) : read text = readWith Percent.decode text := rfl

/-- The text behind an endpoint reads as a list of parameters. -/
structure Reads (endpoint text : Text) (parameters : List (Text × Text)) : Prop where
  /-- No parameters leave no trace, not even a mark, and only they do. -/
  nil_iff : text = [] ↔ parameters = []
  /-- The mark is a question mark unless the endpoint has one. -/
  head : text ≠ [] → text.head? = some (if '?' ∈ endpoint then '&' else '?')
  /-- What stands behind the mark are the parameters. -/
  read : read text.tail = parameters
  /-- They are the same where a plus sign is a space. -/
  readForm : readWith Percent.decodeForm text.tail = parameters

theorem Reads.unique {endpoint text : Text} {first second : List (Text × Text)}
    (h : Reads endpoint text first) (h' : Reads endpoint text second) : first = second :=
  h.read.symm.trans h'.read

/-! ## Reading what was written -/

/-- A name that ends where it is cut. -/
def IsName (name : Text) : Prop :=
  '&' ∉ name ∧ '=' ∉ name

theorem ampersand_notMem_writeOne {parameter : Text × Text} (h : IsName parameter.1) :
    '&' ∉ writeOne parameter := by
  have hcode := (Percent.isCode_encode parameter.2).notMem (c := '&') (by decide)
  simpa [writeOne, hcode] using h.1

theorem cut_writeOne {parameter : Text × Text} (h : IsName parameter.1) :
    Text.cut '=' (writeOne parameter) = (parameter.1, some (Percent.encode parameter.2)) :=
  Text.cut_append_cons h.2 _

theorem writeOne_ne_nil (parameter : Text × Text) : writeOne parameter ≠ [] := by
  simp [writeOne]

theorem write_ne_nil {parameters : List (Text × Text)} (h : parameters ≠ []) :
    write parameters ≠ [] := by
  obtain ⟨first, others, rfl⟩ := List.exists_cons_of_ne_nil h
  cases others with
  | nil => simpa [write] using writeOne_ne_nil first
  | cons second more => simp [write, writeOne_ne_nil]

/-- Parameters are read as they were written, by any reader that undoes the codes of values. -/
theorem readWith_write {decode : Text → Text} (hd : ∀ text, decode (Percent.encode text) = text)
    {parameters : List (Text × Text)} (h : ∀ parameter ∈ parameters, IsName parameter.1) :
    readWith decode (write parameters) = parameters := by
  by_cases hne : parameters = []
  · subst hne
    rfl
  rw [readWith, if_neg (by simpa using write_ne_nil hne), write, Text.pieces_intercalate]
  · rw [List.map_map]
    refine (List.map_congr_left fun parameter hp => ?_).trans (List.map_id' parameters)
    rw [Function.comp_apply, cut_writeOne (h parameter hp), Option.getD_some, hd]
  · simpa using hne
  · intro part hpart
    obtain ⟨parameter, hp, rfl⟩ := List.mem_map.mp hpart
    exact ampersand_notMem_writeOne (h parameter hp)

/-- **What parameters append to a URL reads as these parameters.** -/
theorem reads_extension {endpoint : Text} {parameters : List (Text × Text)}
    (h : ∀ parameter ∈ parameters, IsName parameter.1) :
    Reads endpoint (extension endpoint parameters) parameters := by
  by_cases hne : parameters = []
  · subst hne
    exact ⟨by simp, by simp, rfl, rfl⟩
  have hread : read (write parameters) = parameters := by
    rw [read_eq_readWith]
    exact readWith_write Percent.decode_encode h
  have hform := readWith_write Percent.decodeForm_encode h
  rw [extension_of_ne_nil hne]
  exact ⟨by simp [hne], fun _ => rfl, hread, hform⟩

end FilterQuery.QueryString
