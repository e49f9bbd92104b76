import FilterQuery.Page
import FilterQuery.Proofs.QueryString.Reading
import FilterQuery.Proofs.Text.Count

/-!
# Pages tile the rows

A page begins where the page before it ends, so pages of one size lie side by side: the first `n` of
them hold the first rows, each row once.  This is exact as long as the last of them begins at a
number of 64 bits.  An offset that does not fit is the greatest number, and no offset comes after
it, so from there on the pages stay where they are.

* `rows`: the rows of a page.
* `toNat_offset`, `offset_next`, `offset_le_offset`: where a page begins.
* `flatMap_rows`: the first pages hold the first rows.
* `reads_extension`: a receiver reads the numbers of a page.
* `tile_rows`: all of it together.
-/

namespace FilterQuery.Page

variable {page : Page} {number size : UInt64} {n : Nat}

/-! ## Where a page begins -/

theorem toNat_offset (page : Page) :
    page.offset.toNat = min ((page.number.toNat - 1) * page.size.toNat) greatestCount :=
  UInt64.toNat_ofNat_of_lt' (Nat.lt_of_le_of_lt (Nat.min_le_right _ _) (by decide))

/-- An offset that fits is exact. -/
theorem toNat_offset_of_lt (h : (page.number.toNat - 1) * page.size.toNat < UInt64.size) :
    page.offset.toNat = (page.number.toNat - 1) * page.size.toNat := by
  rw [toNat_offset]
  exact Nat.min_eq_left (Nat.le_sub_one_of_lt h)

/-- The offset over the integers, where page zero is read as page one. -/
theorem intCast_offset (page : Page) :
    (page.offset.toNat : Int) =
      min (max ((page.number.toNat : Int) - 1) 0 * page.size.toNat) (UInt64.size - 1) := by
  have hnumber : ((page.number.toNat - 1 : Nat) : Int) = max ((page.number.toNat : Int) - 1) 0 := by
    omega
  have hgreatest : (greatestCount : Int) = UInt64.size - 1 := rfl
  rw [toNat_offset, ← hnumber, ← hgreatest, ← Int.natCast_mul]
  omega

theorem toNat_add_one (h : number.toNat < UInt64.size - 1) :
    (number + 1).toNat = number.toNat + 1 := by
  rw [UInt64.toNat_add, UInt64.toNat_one]
  exact Nat.mod_eq_of_lt (Nat.add_lt_of_lt_sub h)

/-- **A page begins where the page before it ends**, as far as 64 bits go. -/
theorem toNat_offset_next (size : UInt64) (hfirst : 1 ≤ number)
    (hlast : number.toNat < UInt64.size - 1) :
    (offset ⟨number + 1, size⟩).toNat =
      min ((offset ⟨number, size⟩).toNat + size.toNat) (UInt64.size - 1) := by
  have hone : 1 ≤ number.toNat := UInt64.le_iff_toNat_le.mp hfirst
  have hnext : (number.toNat - 1) * size.toNat + size.toNat = number.toNat * size.toNat := by
    rw [← Nat.succ_mul, Nat.succ_eq_add_one, Nat.sub_add_cancel hone]
  rw [toNat_offset, toNat_offset]
  show min (((number + 1).toNat - 1) * size.toNat) (UInt64.size - 1) =
    min (min ((number.toNat - 1) * size.toNat) (UInt64.size - 1) + size.toNat) (UInt64.size - 1)
  rw [toNat_add_one hlast, Nat.add_sub_cancel, ← hnext]
  omega

/-- A later page, and a page of longer ones, begins no earlier. -/
theorem offset_le_offset {other : Page} (hnumber : page.number ≤ other.number)
    (hsize : page.size ≤ other.size) : page.offset ≤ other.offset := by
  rw [UInt64.le_iff_toNat_le] at hnumber hsize ⊢
  have hproduct : (page.number.toNat - 1) * page.size.toNat ≤
      (other.number.toNat - 1) * other.size.toNat :=
    Nat.mul_le_mul (Nat.sub_le_sub_right hnumber 1) hsize
  rw [toNat_offset, toNat_offset]
  omega

/-- There are rows before a page exactly when there is a page before it that holds some. -/
theorem offset_pos_iff : 0 < page.offset ↔ 2 ≤ page.number ∧ 1 ≤ page.size := by
  rw [UInt64.lt_iff_toNat_lt, UInt64.le_iff_toNat_le, UInt64.le_iff_toNat_le, toNat_offset]
  show 0 < min ((page.number.toNat - 1) * page.size.toNat) greatestCount ↔
    2 ≤ page.number.toNat ∧ 1 ≤ page.size.toNat
  have hzero : (page.number.toNat - 1) * page.size.toNat = 0 ↔
      page.number.toNat - 1 = 0 ∨ page.size.toNat = 0 := Nat.mul_eq_zero
  have hgreatest : 0 < greatestCount := by decide
  omega

/-! ## The rows of pages -/

/-- The rows of a page, counted from zero. -/
def rows (page : Page) : List Nat :=
  List.range' page.offset.toNat page.size.toNat

/-- The page behind the first `n`, where it begins at a number that fits. -/
theorem rows_eq_map_range (hnumber : n + 1 < UInt64.size)
    (hfits : n * size.toNat < UInt64.size) :
    rows ⟨UInt64.ofNat (n + 1), size⟩ =
      (List.range size.toNat).map fun row => n * size.toNat + row := by
  have hn : (UInt64.ofNat (n + 1)).toNat - 1 = n := by
    rw [UInt64.toNat_ofNat_of_lt' hnumber, Nat.add_sub_cancel]
  rw [rows, toNat_offset_of_lt (by rwa [hn]), hn, List.range'_eq_map_range]

/-- **Pages tile the rows**: the first `n` pages hold the first rows, none of them twice, as long as
the last page begins at a number that fits. -/
theorem flatMap_rows (size : UInt64) (n : Nat) (hnumber : n < UInt64.size)
    (hfits : (n - 1) * size.toNat < UInt64.size) :
    (List.range n).flatMap (fun i => rows ⟨UInt64.ofNat (i + 1), size⟩) =
      List.range (n * size.toNat) := by
  induction n with
  | zero => rw [Nat.zero_mul]; rfl
  | succ n ih =>
    rw [Nat.add_sub_cancel] at hfits
    have hbefore : (n - 1) * size.toNat < UInt64.size :=
      Nat.lt_of_le_of_lt (Nat.mul_le_mul_right _ (Nat.sub_le n 1)) hfits
    rw [List.range_succ, List.flatMap_append, ih (Nat.lt_of_succ_lt hnumber) hbefore,
      List.flatMap_singleton, rows_eq_map_range hnumber hfits, ← List.range_add, ← Nat.succ_mul]

/-! ## What a receiver reads -/

/-- Parameters ask for the rows of a page: they limit the rows to its size, ask for the number of
all rows, and leave rows out where some come before the page.  Numbers are decimal. -/
def AskedBy (page : Page) (parameters : List (Text × Text)) : Prop :=
  ∃ skip top, parameters = skip ++ [("$top".toList, top), ("$count".toList, "true".toList)] ∧
    Text.readCount? top = some page.size ∧
    if 2 ≤ page.number ∧ 1 ≤ page.size then
      ∃ text, skip = [("$skip".toList, text)] ∧ Text.readCount? text = some page.offset
    else
      skip = []

theorem askedBy_parameters (page : Page) : page.AskedBy page.parameters := by
  refine ⟨_, countText page.size, rfl, Text.readCount?_ofNat page.size, ?_⟩
  by_cases h : 0 < page.offset
  · rw [if_pos h, if_pos (offset_pos_iff.mp h)]
    exact ⟨countText page.offset, rfl, Text.readCount?_ofNat page.offset⟩
  · rw [if_neg h, if_neg (mt offset_pos_iff.mpr h)]

theorem map_fst_parameters (page : Page) : page.parameters.map Prod.fst =
    (if 0 < page.offset then ["$skip".toList] else []) ++ ["$top".toList, "$count".toList] := by
  unfold parameters
  split <;> rfl

theorem isName_of_mem_parameters {parameter : Text × Text} (h : parameter ∈ page.parameters) :
    QueryString.IsName parameter.1 := by
  have hname : parameter.1 ∈ page.parameters.map Prod.fst := List.mem_map_of_mem h
  rw [map_fst_parameters] at hname
  generalize parameter.1 = name at hname
  unfold QueryString.IsName
  split at hname
  · revert name
    decide
  · revert name
    decide

/-- A receiver reads the parameters of a page from what the page appends to a URL. -/
theorem reads_extension (page : Page) (url : Text) :
    QueryString.Reads url (page.extension url) page.parameters :=
  QueryString.reads_extension fun _ => isName_of_mem_parameters

/-- **Pages tile the rows.**  A page begins at the product of the number of pages before it and
their size, or at the greatest number where the product is greater.  The next page begins where it
ends, as far as 64 bits go; the first pages together hold the first rows, each row once, as long as
the last of them begins at a number that fits; and no offset comes before one of an earlier or a
shorter page.  What a page appends to a URL reads as its offset and its size, without an offset
where no rows come before it. -/
theorem tile_rows :
    (∀ page : Page, (page.offset.toNat : Int) =
      min (max ((page.number.toNat : Int) - 1) 0 * page.size.toNat) (UInt64.size - 1)) ∧
    (∀ number size : UInt64, 1 ≤ number → number.toNat < UInt64.size - 1 →
      (offset ⟨number + 1, size⟩).toNat =
        min ((offset ⟨number, size⟩).toNat + size.toNat) (UInt64.size - 1)) ∧
    (∀ (size : UInt64) (n : Nat), n < UInt64.size → (n - 1) * size.toNat < UInt64.size →
      (List.range n).flatMap (fun i => rows ⟨UInt64.ofNat (i + 1), size⟩) =
        List.range (n * size.toNat)) ∧
    (∀ page other : Page, page.number ≤ other.number → page.size ≤ other.size →
      page.offset ≤ other.offset) ∧
    ∀ (page : Page) (url : Text), ∃ parameters,
      QueryString.Reads url (page.extension url) parameters ∧ page.AskedBy parameters :=
  ⟨intCast_offset, fun _ => toNat_offset_next, flatMap_rows, fun _ _ => offset_le_offset,
    fun page url => ⟨page.parameters, reads_extension page url, askedBy_parameters page⟩⟩

/-- The last page that begins at a number that fits and the page behind it, three short pages, and
pages before which there are no rows. -/
theorem tile_rows_edge :
    let half : UInt64 := 0x8000000000000000
    let last : Page := ⟨2, half⟩
    let beyond : Page := ⟨3, half⟩
    ((1 : UInt64) ≤ 2 ∧ (2 : UInt64).toNat < UInt64.size - 1) ∧
    beyond.offset.toNat = min (last.offset.toNat + half.toNat) (UInt64.size - 1) ∧
    (beyond.offset.toNat : Int) = UInt64.size - 1 ∧
    (2 < UInt64.size ∧ (2 - 1) * half.toNat < UInt64.size) ∧
    (List.range 2).flatMap (fun i => rows ⟨UInt64.ofNat (i + 1), half⟩) =
      List.range (2 * half.toNat) ∧
    (last.number ≤ beyond.number ∧ last.size ≤ beyond.size) ∧ last.offset ≤ beyond.offset ∧
    ∃ parameters, QueryString.Reads "/api".toList (last.extension "/api".toList) parameters ∧
      last.AskedBy parameters := by
  intro half last beyond
  obtain ⟨hoffset, hnext, hrows, hmono, hreads⟩ := tile_rows
  refine ⟨by decide, hnext 2 half (by decide) (by decide), ?_, by decide,
    hrows half 2 (by decide) (by decide), by decide, hmono last beyond (by decide) (by decide),
    hreads last "/api".toList⟩
  rw [hoffset beyond]
  decide

end FilterQuery.Page
