import FilterQuery.Proofs.Json.Grammar

/-!
# Numbers are read by the grammar

A number has no closing token, so where it ends is decided by what follows it: a digit, a point or
the letter of an exponent would go on with it.  In front of anything else the reader takes each part
of a number up to its end, because no part begins with a character that could belong to the one
before it.

* `EndsNumber`: what follows does not go on with a number.
* `Numeral.read_append`: each text of a number is read as the number.
-/

namespace FilterQuery.Json

theorem ok_bind {α β : Type} (a : α) (next : α → Except Fault β) :
    (Except.ok a >>= next) = next a := rfl

theorem error_bind {α β : Type} (fault : Fault) (next : α → Except Fault β) :
    (Except.error fault >>= next) = .error fault := rfl

/-- What follows does not go on with a number. -/
def EndsNumber (rest : Text) : Prop :=
  ∀ c ∈ rest.head?, c.isDigit = false ∧ c ∉ ['.', 'e', 'E']

theorem endsNumber_nil : EndsNumber [] := by
  simp [EndsNumber]

theorem endsNumber_cons {c : Char} (hd : c.isDigit = false) (hc : c ∉ ['.', 'e', 'E'])
    (rest : Text) : EndsNumber (c :: rest) := by
  intro d hm
  obtain rfl : c = d := Option.some.inj hm
  exact ⟨hd, hc⟩

namespace Numeral

variable {use : Use} {numeral : Numeral} {text digits rest : Text}

/-! ## Digits -/

/-- What follows does not begin with a digit. -/
def EndsDigits (rest : Text) : Prop :=
  ∀ c ∈ rest.head?, c.isDigit = false

theorem endsDigits_cons {c : Char} (h : c.isDigit = false) (rest : Text) :
    EndsDigits (c :: rest) := by
  intro d hm
  obtain rfl : c = d := Option.some.inj hm
  exact h

theorem EndsDigits.takeWhile (h : EndsDigits rest) : rest.takeWhile Char.isDigit = [] := by
  cases rest with
  | nil => rfl
  | cons c more => rw [List.takeWhile_cons, h c rfl, if_neg Bool.false_ne_true]

theorem EndsDigits.dropWhile (h : EndsDigits rest) : rest.dropWhile Char.isDigit = rest := by
  cases rest with
  | nil => rfl
  | cons c more => rw [List.dropWhile_cons, h c rfl, if_neg Bool.false_ne_true]

theorem readDigits_append (h : IsDigits digits) (hr : EndsDigits rest) :
    readDigits use (digits ++ rest) = .ok (digits, rest) := by
  have htake : (digits ++ rest).takeWhile Char.isDigit = digits := by
    rw [List.takeWhile_append_of_pos h.2, hr.takeWhile, List.append_nil]
  have hdrop : (digits ++ rest).dropWhile Char.isDigit = rest := by
    rw [List.dropWhile_append_of_pos h.2, hr.dropWhile]
  rw [readDigits, htake, hdrop, if_pos (by simpa using h.1)]

theorem IsDigits.exists_cons (h : IsDigits digits) :
    ∃ c more, digits = c :: more ∧ c.isDigit = true := by
  obtain ⟨c, more, rfl⟩ := List.exists_cons_of_ne_nil h.1
  exact ⟨c, more, rfl, h.2 c List.mem_cons_self⟩

/-! ## The parts of a number -/

theorem readWhole_append (h : IsWhole text) (hr : EndsDigits rest) :
    readWhole use (text ++ rest) = .ok (text, rest) := by
  rw [readWhole, readDigits_append h.1 hr, ok_bind]
  dsimp only
  split
  · -- a zero in front of more digits
    exact absurd (h.2 rfl) (by simp)
  · rfl

theorem readFraction_append {fraction : Option Text} (h : SpellsFraction fraction text)
    (hr : EndsDigits rest) (hpoint : rest.head? ≠ some '.') :
    readFraction use (text ++ rest) = .ok (fraction, rest) := by
  cases h with
  | none =>
    rw [List.nil_append, readFraction]
    rintro more rfl
    exact hpoint rfl
  | some hd =>
    rw [List.cons_append, readFraction, readDigits_append hd hr, ok_bind]

theorem dropSign_append (h : IsDigits digits) (rest : Text) :
    dropSign (digits ++ rest) = (false, digits ++ rest) := by
  obtain ⟨c, more, rfl, hc⟩ := h.exists_cons
  rw [List.cons_append, dropSign]
  all_goals
    rintro _ he
    obtain ⟨rfl, -⟩ := List.cons.inj he
    exact absurd hc (by decide)

theorem readExponent_append {exponent : Option Int} (h : SpellsExponent exponent text)
    (hr : EndsNumber rest) : readExponent use (text ++ rest) = .ok (exponent, rest) := by
  have hdigits : EndsDigits rest := fun c hc => (hr c hc).1
  -- behind either letter the power is read in the same way
  have hletter : ∀ letter, letter = 'e' ∨ letter = 'E' → ∀ more power,
      readPower use more = .ok (power, rest) →
      readExponent use (letter :: more) = .ok (some power, rest) := by
    rintro letter (rfl | rfl) more power hp
    · rw [readExponent, hp, ok_bind]
    · rw [readExponent, hp, ok_bind]
  have hpower : ∀ more negative digits, dropSign more = (negative, digits ++ rest) →
      IsDigits digits → readPower use more =
        .ok (if negative then -(Text.digitsValue digits : Int) else Text.digitsValue digits,
          rest) := by
    intro more negative digits hsign hd
    rw [readPower, hsign]
    dsimp only
    rw [readDigits_append hd hdigits, ok_bind]
  cases h with
  | none =>
    have hne : ∀ letter more, letter ∈ ['.', 'e', 'E'] → rest ≠ letter :: more := by
      rintro letter more hm rfl
      exact (hr letter rfl).2 hm
    rw [List.nil_append, readExponent]
    · exact fun more => hne 'e' more (by decide)
    · exact fun more => hne 'E' more (by decide)
  | unsigned hl hd => exact hletter _ hl _ _ (hpower _ _ _ (dropSign_append hd rest) hd)
  | plus hl hd => exact hletter _ hl _ _ (hpower ('+' :: (_ ++ rest)) false _ rfl hd)
  | minus hl hd => exact hletter _ hl _ _ (hpower ('-' :: (_ ++ rest)) true _ rfl hd)

/-! ## Whole numbers -/

/-- No part of a number begins with a character that goes on with the one before it. -/
theorem SpellsExponent.head?_ne {exponent : Option Int} (h : SpellsExponent exponent text)
    (hr : EndsNumber rest) :
    EndsDigits (text ++ rest) ∧ (text ++ rest).head? ≠ some '.' := by
  have hletter : ∀ letter, letter = 'e' ∨ letter = 'E' → ∀ more,
      EndsDigits (letter :: more) ∧ (letter :: more).head? ≠ some '.' := by
    rintro letter (rfl | rfl) more
    · exact ⟨endsDigits_cons (by decide) more, by simp⟩
    · exact ⟨endsDigits_cons (by decide) more, by simp⟩
  cases h with
  | none =>
    refine ⟨fun c hc => (hr c hc).1, fun hpoint => ?_⟩
    exact (hr '.' hpoint).2 (by simp)
  | unsigned hl | plus hl | minus hl => exact hletter _ hl _

theorem SpellsFraction.endsDigits {fraction : Option Text} (h : SpellsFraction fraction text)
    (hr : EndsDigits rest) : EndsDigits (text ++ rest) := by
  cases h with
  | none => exact hr
  | some => exact endsDigits_cons (by decide) _

theorem readUnsigned_append (h : SpellsUnsigned numeral text) (hr : EndsNumber rest) :
    readUnsigned use numeral.negative (text ++ rest) = .ok (numeral, rest) := by
  obtain ⟨fraction, exponent, hwhole, hfraction, hexponent, rfl⟩ := h
  obtain ⟨hdigits, hpoint⟩ := hexponent.head?_ne hr
  rw [readUnsigned, List.append_assoc, List.append_assoc,
    readWhole_append hwhole (hfraction.endsDigits hdigits), ok_bind]
  dsimp only
  rw [readFraction_append hfraction hdigits hpoint, ok_bind]
  dsimp only
  rw [readExponent_append hexponent hr, ok_bind]

/-- A number without its sign begins with a digit. -/
theorem SpellsUnsigned.exists_cons (h : SpellsUnsigned numeral text) :
    ∃ c more, text = c :: more ∧ c.isDigit = true := by
  obtain ⟨fraction, exponent, hwhole, -, -, rfl⟩ := h
  obtain ⟨c, more, hc, hd⟩ := hwhole.1.exists_cons
  exact ⟨c, _, by rw [hc, List.cons_append], hd⟩

/-- A number begins with its sign or with a digit. -/
theorem Spells.exists_cons (h : Spells numeral text) :
    ∃ c more, text = c :: more ∧ (c = '-' ∨ c.isDigit = true) := by
  obtain ⟨unsigned, hu, rfl⟩ := h
  obtain ⟨c, more, rfl, hd⟩ := hu.exists_cons
  cases numeral.negative with
  | true => exact ⟨'-', _, rfl, Or.inl rfl⟩
  | false => exact ⟨c, more, rfl, Or.inr hd⟩

/-- **Each text of a number is read as the number**, in front of anything that does not go on with
it. -/
theorem read_append (h : Spells numeral text) (hr : EndsNumber rest) :
    read use (text ++ rest) = .ok (numeral, rest) := by
  obtain ⟨unsigned, hu, rfl⟩ := h
  have hunsigned : readUnsigned use numeral.negative (unsigned ++ rest) = .ok (numeral, rest) :=
    readUnsigned_append hu hr
  cases hn : numeral.negative with
  | true =>
    rw [hn] at hunsigned
    exact hunsigned
  | false =>
    obtain ⟨c, more, rfl, hd⟩ := hu.exists_cons
    rw [hn] at hunsigned
    rw [if_neg Bool.false_ne_true, List.cons_append, read]
    · exact hunsigned
    · rintro _ he
      obtain ⟨rfl, -⟩ := List.cons.inj he
      exact absurd hd (by decide)

end Numeral

end FilterQuery.Json
