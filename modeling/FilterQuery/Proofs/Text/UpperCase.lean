import FilterQuery.Text.LetterCase

/-!
# Upper case letters are left alone

A text that begins with an upper case letter is not changed by putting its first character in upper
case, not even where that letter is the first of several that stand for one.  This is a property of
the tables: no letter goes to where another letter is moved on from.  It is checked run by run.
Two runs of the code space that do not overlap are out of each other's way, and so are two that take
every second letter and start on different feet, as most runs of small and capital letters do.

What takes the place of a letter is never below the letter `A`, so no mark of punctuation that a
text is cut at comes in by upper-casing.

* `CaseRun.misses`: one run moves nothing to where another begins.
* `upperChar_cases`: the upper case of a character, by the tables.
* `exists_upperChar_cons`: upper case begins with a letter that is left alone.
* `capitalize_capitalize`: putting the first character in upper case once is enough.
-/

namespace FilterQuery

/-! ## Runs that are out of each other's way -/

namespace CaseRun

variable {run other : CaseRun} {code : Nat}

theorem covers_iff : run.covers code = true ↔
    run.first ≤ code ∧ code ≤ run.last ∧ (code - run.first) % run.step = 0 := by
  simp [covers, and_assoc]

/-- The last code point that the run moves another one to. -/
def lastImage (run : CaseRun) : Nat :=
  run.target + (run.last - run.first)

theorem le_image (run : CaseRun) (code : Nat) : run.target ≤ run.image code :=
  Nat.le_add_right _ _

theorem image_le (h : run.covers code = true) : run.image code ≤ run.lastImage := by
  obtain ⟨hfirst, hlast, -⟩ := covers_iff.mp h
  rw [image, lastImage]
  omega

/-- Whether the one run moves nothing to where the other moves something on. -/
def misses (run other : CaseRun) : Bool :=
  run.lastImage < other.first || other.last < run.target ||
    other.step == 2 && (run.step == 2 || run.first == run.last) &&
      run.target % 2 != other.first % 2

theorem covers_image_of_misses (h : run.misses other = true) (hcode : run.covers code = true) :
    other.covers (run.image code) = false := by
  have hlow := run.le_image code
  have hhigh := image_le hcode
  obtain ⟨hfirst, hlast, hstep⟩ := covers_iff.mp hcode
  refine Bool.eq_false_iff.mpr fun hother => ?_
  obtain ⟨hfirst', hlast', hstep'⟩ := covers_iff.mp hother
  simp only [misses, Bool.or_eq_true, Bool.and_eq_true, decide_eq_true_eq, beq_iff_eq,
    bne_iff_ne] at h
  rcases h with (habove | hbelow) | ⟨⟨htwo, hsteps⟩, hfoot⟩
  · omega
  · omega
  · -- both go in steps of two, from code points of which one is even and one is odd
    rw [htwo] at hstep'
    rw [image] at hstep' hfirst'
    rcases hsteps with hsame | hsingle
    · rw [hsame] at hstep
      omega
    · omega

/-- Whether some runs move nothing to where others move something on. -/
def allMiss (runs others : List CaseRun) : Bool :=
  runs.all fun run => others.all fun other => run.misses other

/-- The same, for tables that are cut at some code points.  A run needs to be compared only with
those on its own side of each cut. -/
def allMissBetween : List Nat → List CaseRun → List CaseRun → Bool
  | [], runs, others => allMiss runs others
  | cut :: cuts, runs, others =>
    allMiss (runs.filter fun run => run.target < cut) (others.filter fun run => run.first < cut) &&
      allMissBetween cuts (runs.filter fun run => cut ≤ run.lastImage)
        (others.filter fun run => cut ≤ run.last)

theorem covers_image_of_allMiss {runs others : List CaseRun} (h : allMiss runs others = true)
    (hrun : run ∈ runs) (hother : other ∈ others) (hcode : run.covers code = true) :
    other.covers (run.image code) = false :=
  covers_image_of_misses (List.all_eq_true.mp (List.all_eq_true.mp h run hrun) other hother) hcode

theorem covers_image_of_allMissBetween {cuts : List Nat} {runs others : List CaseRun}
    (h : allMissBetween cuts runs others = true) (hrun : run ∈ runs) (hother : other ∈ others)
    (hcode : run.covers code = true) : other.covers (run.image code) = false := by
  induction cuts generalizing runs others with
  | nil => exact covers_image_of_allMiss h hrun hother hcode
  | cons cut cuts ih =>
    have hlow := run.le_image code
    have hhigh := image_le hcode
    rw [allMissBetween, Bool.and_eq_true] at h
    refine Bool.eq_false_iff.mpr fun hcovers => ?_
    obtain ⟨hfirst, hlast, -⟩ := covers_iff.mp hcovers
    -- the image stands on one side of the cut, and both runs reach that side
    by_cases hside : run.image code < cut
    · have hrun' : run ∈ runs.filter fun run => run.target < cut :=
        List.mem_filter.mpr ⟨hrun, by simp; omega⟩
      have hother' : other ∈ others.filter fun run => run.first < cut :=
        List.mem_filter.mpr ⟨hother, by simp; omega⟩
      exact absurd hcovers (by simp [covers_image_of_allMiss h.1 hrun' hother' hcode])
    · have hrun' : run ∈ runs.filter fun run => cut ≤ run.lastImage :=
        List.mem_filter.mpr ⟨hrun, by simp; omega⟩
      have hother' : other ∈ others.filter fun run => cut ≤ run.last :=
        List.mem_filter.mpr ⟨hother, by simp; omega⟩
      exact absurd hcovers (by simp [ih h.2 hrun' hother'])

end CaseRun

/-! ## The tables -/

namespace Text

/-- The letters that are not their own upper case, moved to the first character of it. -/
def upperHeads : List CaseRun :=
  upperRuns ++ upperExpansions.map fun entry => ⟨entry.1, entry.1, 1, entry.2.headD 0⟩

/-- No upper case begins with a letter that is not its own. -/
theorem allMiss_upperHeads :
    CaseRun.allMissBetween [0x200, 0x300, 0x1000, 0x1F70, 0x1FA0, 0x2000, 0xA000]
      upperHeads upperHeads = true := by
  decide +kernel

theorem bounds_of_mem_upperRuns : ∀ run ∈ upperRuns, 'A'.toNat ≤ run.target ∧
    (run.lastImage < 0xD800 ∨ 0xDFFF < run.target ∧ run.lastImage < 0x110000) := by
  decide +kernel

theorem bounds_of_mem_upperExpansions : ∀ entry ∈ upperExpansions,
    entry.2 ≠ [] ∧ ∀ code ∈ entry.2, 'A'.toNat ≤ code ∧ code < 0xD800 := by
  decide +kernel

/-- **The upper case of a character, by the tables**: itself, or what stands in the tables for it,
which is never below the letter `A`. -/
theorem upperChar_cases (c : Char) :
    upperChar c = [c] ∨ ∃ run ∈ upperHeads, run.covers c.toNat = true ∧
      ∃ others, upperChar c = (run.image c.toNat :: others).map Char.ofNat ∧
        ∀ code ∈ run.image c.toNat :: others, 'A'.toNat ≤ code ∧ code.isValidChar := by
  rw [upperChar, mapCase]
  cases hexpansion : upperExpansions.lookup c.toNat with
  | some codes =>
    right
    obtain ⟨before, after, htable, -⟩ := List.lookup_eq_some_iff.mp hexpansion
    have hmem : (c.toNat, codes) ∈ upperExpansions := by simp [htable]
    obtain ⟨hne, hbounds⟩ := bounds_of_mem_upperExpansions _ hmem
    obtain ⟨head, others, rfl⟩ := List.exists_cons_of_ne_nil hne
    refine ⟨⟨c.toNat, c.toNat, 1, head⟩, ?_, by simp [CaseRun.covers], others, ?_, ?_⟩
    · exact List.mem_append_right _ (List.mem_map.mpr ⟨_, hmem, rfl⟩)
    · simp [CaseRun.image]
    · intro code hcode
      rw [CaseRun.image, Nat.sub_self, Nat.add_zero] at hcode
      exact ⟨(hbounds code hcode).1, Or.inl (hbounds code hcode).2⟩
  | none =>
    cases hrun : upperRuns.find? fun run => run.covers c.toNat with
    | some run =>
      right
      have hmem := List.mem_of_find?_eq_some hrun
      have hcovers := List.find?_some hrun
      obtain ⟨hlow, hhigh⟩ := bounds_of_mem_upperRuns run hmem
      have hle := run.le_image c.toNat
      have hle' := CaseRun.image_le hcovers
      refine ⟨run, List.mem_append_left _ hmem, hcovers, [], ?_, ?_⟩
      · rw [CaseRun.lookup?, hrun]
        rfl
      · rw [List.forall_mem_singleton, Nat.isValidChar]
        omega
    | none =>
      left
      rw [CaseRun.lookup?, hrun]
      rfl

/-- **Upper case begins with a letter that is left alone.** -/
theorem exists_upperChar_cons (c : Char) :
    ∃ d rest, upperChar c = d :: rest ∧ upperChar d = [d] := by
  rcases upperChar_cases c with hsame | ⟨run, hrun, hcovers, others, hupper, hbounds⟩
  · exact ⟨c, [], hsame, hsame⟩
  · refine ⟨_, _, hupper, ?_⟩
    have hvalid := (hbounds _ List.mem_cons_self).2
    rcases upperChar_cases (Char.ofNat (run.image c.toNat)) with
      hsame | ⟨other, hother, hmoved, -⟩
    · exact hsame
    · rw [toNat_ofNat hvalid,
        CaseRun.covers_image_of_allMissBetween allMiss_upperHeads hrun hother hcovers] at hmoved
      exact absurd hmoved Bool.false_ne_true

/-- What takes the place of a character in upper case is never below the letter `A`. -/
theorem mem_upperChar {c d : Char} (h : d ∈ upperChar c) : d = c ∨ 'A'.toNat ≤ d.toNat := by
  rcases upperChar_cases c with hsame | ⟨run, -, -, others, hupper, hbounds⟩
  · rw [hsame] at h
    exact Or.inl (List.mem_singleton.mp h)
  · rw [hupper] at h
    obtain ⟨code, hcode, rfl⟩ := List.mem_map.mp h
    obtain ⟨hlow, hvalid⟩ := hbounds code hcode
    exact Or.inr (by rwa [toNat_ofNat hvalid])

/-! ## The first character of a text -/

/-- **Putting the first character in upper case once is enough.** -/
theorem capitalize_capitalize (text : Text) : capitalize (capitalize text) = capitalize text := by
  cases text with
  | nil => rfl
  | cons c rest =>
    obtain ⟨d, more, hupper, hsame⟩ := exists_upperChar_cons c
    rw [capitalize, hupper, List.cons_append, capitalize, hsame, List.singleton_append]

/-- No character below the letter `A` comes in. -/
theorem mem_of_mem_capitalize {text : Text} {c : Char} (h : c ∈ capitalize text)
    (hc : c.toNat < 'A'.toNat) : c ∈ text := by
  cases text with
  | nil => exact h
  | cons first rest =>
    rw [capitalize, List.mem_append] at h
    rcases h with h | h
    · rcases mem_upperChar h with rfl | hle
      · exact List.mem_cons_self
      · omega
    · exact List.mem_cons_of_mem _ h

end Text

end FilterQuery
