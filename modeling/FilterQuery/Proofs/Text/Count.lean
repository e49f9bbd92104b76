import FilterQuery.Text.Blank
import FilterQuery.Text.Decimal
import Mathlib.Data.List.Induction

/-!
# Which texts are counts

A count is read in two steps, which take off the blanks at both ends and a plus sign, before the
digits are looked at.  What this comes to is one form: blanks, a plus sign or none, digits, blanks.
The form says of every text whether it is a count and of which number, and it does so without the
reader: the number grows digit by digit from the left, and nothing is said of how far 64 bits go but
that it has to be below their size.

* `IsNumeral`: digits, and the number that they stand for.
* `SpellsCount`: the texts that are counts.
* `readCount?_ofNat`: a number is read from its decimal text.
* `readCount?_trim_eq_some_iff`, `readCount?_trim_eq_none_iff`: the reader keeps to the form.
-/

namespace FilterQuery.Text

variable {text digits raw : Text} {c : Char} {n : Nat}

/-- Decimal digits stand for a number: one digit for its own, and one more digit for ten times the
number before it with its own added. -/
inductive IsNumeral : Text → Nat → Prop
  | digit {c : Char} {n : Nat} (h : "0123456789".toList[n]? = some c) : IsNumeral [c] n
  | concat {digits : Text} {c : Char} {value n : Nat} (hd : IsNumeral digits value)
      (h : "0123456789".toList[n]? = some c) : IsNumeral (digits ++ [c]) (10 * value + n)

/-- A text is a count: digits, with at most one plus sign in front of them and with blanks around.
The number fits in 64 bits. -/
def SpellsCount (raw : Text) (n : Nat) : Prop :=
  ∃ before sign digits after, raw = before ++ (sign ++ digits) ++ after ∧
    (∀ c ∈ before, isBlank c = true) ∧ (∀ c ∈ after, isBlank c = true) ∧
    (sign = [] ∨ sign = ['+']) ∧ IsNumeral digits n ∧ n < UInt64.size

theorem SpellsCount.lt_size (h : SpellsCount raw n) : n < UInt64.size := by
  obtain ⟨_, _, _, _, _, _, _, _, _, hfits⟩ := h
  exact hfits

/-! ## Digits -/

/-- The digits are ten characters in a row, so they can be looked through one by one. -/
theorem of_isDigit {p : Char → Prop} (hall : ∀ k < 10, p (Char.ofNat ('0'.toNat + k)))
    (h : c.isDigit = true) : p c := by
  have hrange : '0'.toNat ≤ c.toNat ∧ c.toNat ≤ '9'.toNat := by
    obtain ⟨hlow, hhigh⟩ := Bool.and_eq_true_iff.mp h
    exact ⟨of_decide_eq_true hlow, of_decide_eq_true hhigh⟩
  have hc := hall (c.toNat - '0'.toNat) (by have : '9'.toNat = '0'.toNat + 9 := rfl; omega)
  rwa [Nat.add_sub_cancel' hrange.1, Char.ofNat_toNat] at hc

theorem digit_iff : "0123456789".toList[n]? = some c ↔ c.isDigit = true ∧ digitValue c = n := by
  constructor
  · intro h
    have hall : ∀ k < 10, ("0123456789".toList[k]?).all
        (fun c => c.isDigit = true ∧ digitValue c = k) = true := by
      decide
    have hdigit := hall n (List.getElem?_eq_some_iff.mp h).1
    rw [h, Option.all_some] at hdigit
    exact of_decide_eq_true hdigit
  · rintro ⟨hdigit, rfl⟩
    refine of_isDigit (p := fun c => "0123456789".toList[digitValue c]? = some c) ?_ hdigit
    decide

theorem digitsValue_concat (digits : Text) (c : Char) :
    digitsValue (digits ++ [c]) = 10 * digitsValue digits + digitValue c := by
  rw [digitsValue, List.foldl_append]
  rfl

theorem isNumeral_iff :
    IsNumeral digits n ↔ digits ≠ [] ∧ digits.all Char.isDigit = true ∧ digitsValue digits = n := by
  constructor
  · intro h
    induction h with
    | digit h =>
      obtain ⟨hdigit, rfl⟩ := digit_iff.mp h
      exact ⟨by simp, by simpa using hdigit, by simp [digitsValue]⟩
    | concat _ h ih =>
      obtain ⟨hdigit, rfl⟩ := digit_iff.mp h
      obtain ⟨-, hall, rfl⟩ := ih
      exact ⟨by simp, by simp [List.all_append, hall, hdigit], digitsValue_concat _ _⟩
  · rintro ⟨hne, hall, rfl⟩
    induction digits using List.reverseRecOn with
    | nil => exact absurd rfl hne
    | append_singleton front c ih =>
      rw [List.all_append, Bool.and_eq_true] at hall
      have hdigit := digit_iff.mpr ⟨by simpa using hall.2, rfl⟩
      by_cases hfront : front = []
      · subst hfront
        have hvalue : digitsValue ([] ++ [c]) = digitValue c := by simp [digitsValue]
        rw [hvalue]
        exact .digit hdigit
      · rw [digitsValue_concat]
        exact .concat (ih hfront hall.1) hdigit

/-- The decimal text of a number consists of digits that stand for it. -/
theorem isNumeral_ofNat (n : Nat) : IsNumeral (ofNat n) n := by
  have hvalue : Nat.ofDigitChars 10 (Nat.toDigits 10 n) 0 = n := Nat.ofDigitChars_ten_toDigits
  rw [Nat.ofDigitChars_eq_foldl] at hvalue
  exact isNumeral_iff.mpr ⟨Nat.toDigits_ne_nil, List.all_eq_true.mpr fun c =>
    Nat.isDigit_of_mem_toDigits (by decide) (by decide), hvalue⟩

/-! ## Blanks -/

/-- What is taken off a text are blanks. -/
theorem exists_eq_append_trim (text : Text) :
    ∃ before after, text = before ++ trim text ++ after ∧ (∀ c ∈ before, isBlank c = true) ∧
      ∀ c ∈ after, isBlank c = true := by
  refine ⟨text.takeWhile isBlank,
    ((text.dropWhile isBlank).reverse.takeWhile isBlank).reverse, ?_,
    List.all_eq_true.mp List.all_takeWhile,
    fun c hc => List.all_eq_true.mp List.all_takeWhile c (List.mem_reverse.mp hc)⟩
  rw [trim, List.append_assoc, ← List.reverse_append, List.takeWhile_append_dropWhile,
    List.reverse_reverse, List.takeWhile_append_dropWhile]

/-- Blanks around a text that neither begins nor ends with one are what is taken off. -/
theorem trim_append_append {before core after : Text} (hne : core ≠ [])
    (hbefore : ∀ c ∈ before, isBlank c = true) (hafter : ∀ c ∈ after, isBlank c = true)
    (hcore : ∀ c ∈ core, isBlank c = false) : trim (before ++ core ++ after) = core := by
  have hdrop : ∀ {core : Text} (rest : Text), core ≠ [] → (∀ c ∈ core, isBlank c = false) →
      (core ++ rest).dropWhile isBlank = core ++ rest := by
    intro core rest hne hcore
    obtain ⟨first, others, rfl⟩ := List.exists_cons_of_ne_nil hne
    rw [List.cons_append, List.dropWhile_cons_of_neg (by simp [hcore first List.mem_cons_self])]
  have hleft : (before ++ core ++ after).dropWhile isBlank = core ++ after := by
    rw [List.append_assoc, List.dropWhile_append_of_pos hbefore, hdrop after hne hcore]
  have hright : (core ++ after).reverse.dropWhile isBlank = core.reverse := by
    rw [List.reverse_append,
      List.dropWhile_append_of_pos fun c hc => hafter c (List.mem_reverse.mp hc)]
    have h := hdrop [] (List.reverse_ne_nil_iff.mpr hne)
      fun c hc => hcore c (List.mem_reverse.mp hc)
    rwa [List.append_nil] at h
  rw [trim, hleft, hright, List.reverse_reverse]

/-! ## Counts -/

/-- Nothing that belongs to a count is blank. -/
theorem isBlank_of_mem_sign_append {sign : Text} (hsign : sign = [] ∨ sign = ['+'])
    (hdigits : digits.all Char.isDigit = true) : ∀ c ∈ sign ++ digits, isBlank c = false := by
  intro c hc
  rcases List.mem_append.mp hc with hc | hc
  · rcases hsign with rfl | rfl
    · exact absurd hc List.not_mem_nil
    · obtain rfl := List.mem_singleton.mp hc
      rfl
  · exact of_isDigit (p := fun c => isBlank c = false) (by decide)
      (List.all_eq_true.mp hdigits c hc)

/-- Digits are left alone by what takes off a plus sign. -/
theorem dropPlus_append {sign : Text} (hsign : sign = [] ∨ sign = ['+'])
    (hdigits : digits.all Char.isDigit = true) : dropPlus (sign ++ digits) = digits := by
  rcases hsign with rfl | rfl
  · rw [List.nil_append, dropPlus]
    rintro rest rfl
    simp at hdigits
  · rfl

/-- What belongs to a count is what is left of it without the blanks around it. -/
theorem trim_signed {before sign after : Text} (hsign : sign = [] ∨ sign = ['+'])
    (hdigits : IsNumeral digits n) (hbefore : ∀ c ∈ before, isBlank c = true)
    (hafter : ∀ c ∈ after, isBlank c = true) :
    trim (before ++ (sign ++ digits) ++ after) = sign ++ digits := by
  obtain ⟨hne, hall, -⟩ := isNumeral_iff.mp hdigits
  exact trim_append_append (List.append_ne_nil_of_right_ne_nil _ hne) hbefore hafter
    (isBlank_of_mem_sign_append hsign hall)

theorem exists_eq_append_dropPlus (text : Text) :
    ∃ sign, (sign = [] ∨ sign = ['+']) ∧ text = sign ++ dropPlus text := by
  unfold dropPlus
  split
  · exact ⟨['+'], Or.inr rfl, rfl⟩
  · exact ⟨[], Or.inl rfl, rfl⟩

theorem readCount?_eq_some_iff {n : UInt64} :
    readCount? text = some n ↔ ∃ sign digits, text = sign ++ digits ∧
      (sign = [] ∨ sign = ['+']) ∧ IsNumeral digits n.toNat := by
  -- what is asked of the digits, apart from where they stand
  have hread : ∀ digits : Text, (!digits.isEmpty && digits.all Char.isDigit &&
      digitsValue digits < UInt64.size) = true ↔
        IsNumeral digits (digitsValue digits) ∧ digitsValue digits < UInt64.size := by
    intro digits
    rw [isNumeral_iff]
    simp [and_assoc]
  constructor
  · intro h
    obtain ⟨sign, hsign, htext⟩ := exists_eq_append_dropPlus text
    rw [readCount?, Option.ite_none_right_eq_some, hread, Option.some.injEq] at h
    obtain ⟨⟨hnumeral, hfits⟩, rfl⟩ := h
    refine ⟨sign, dropPlus text, htext, hsign, ?_⟩
    rwa [UInt64.toNat_ofNat_of_lt' hfits]
  · rintro ⟨sign, digits, rfl, hsign, hdigits⟩
    obtain ⟨-, hall, hvalue⟩ := isNumeral_iff.mp hdigits
    rw [readCount?, dropPlus_append hsign hall, Option.ite_none_right_eq_some, hread, hvalue,
      UInt64.ofNat_toNat]
    exact ⟨⟨hdigits, n.toNat_lt_size⟩, rfl⟩

/-- Digits whose number does not fit in 64 bits are not read as another number. -/
theorem readCount?_eq_none_of_size_le {sign : Text} (hsign : sign = [] ∨ sign = ['+'])
    (hdigits : IsNumeral digits n) (h : UInt64.size ≤ n) : readCount? (sign ++ digits) = none := by
  obtain ⟨-, hall, hvalue⟩ := isNumeral_iff.mp hdigits
  rw [readCount?, dropPlus_append hsign hall, hvalue, decide_eq_false (Nat.not_lt.mpr h),
    Bool.and_false]
  rfl

/-- A number is read from its decimal text. -/
theorem readCount?_ofNat (n : UInt64) : readCount? (ofNat n.toNat) = some n :=
  readCount?_eq_some_iff.mpr ⟨[], _, rfl, Or.inl rfl, isNumeral_ofNat n.toNat⟩

/-- **A value is read as a count exactly when it has the form of one.** -/
theorem readCount?_trim_eq_some_iff {n : UInt64} :
    readCount? (trim raw) = some n ↔ SpellsCount raw n.toNat := by
  rw [readCount?_eq_some_iff]
  constructor
  · rintro ⟨sign, digits, htrim, hsign, hdigits⟩
    obtain ⟨before, after, hraw, hbefore, hafter⟩ := exists_eq_append_trim raw
    rw [htrim] at hraw
    exact ⟨before, sign, digits, after, hraw, hbefore, hafter, hsign, hdigits, n.toNat_lt_size⟩
  · rintro ⟨before, sign, digits, after, rfl, hbefore, hafter, hsign, hdigits, -⟩
    exact ⟨sign, digits, trim_signed hsign hdigits hbefore hafter, hsign, hdigits⟩

theorem readCount?_trim_eq_none_iff :
    readCount? (trim raw) = none ↔ ∀ n, ¬ SpellsCount raw n := by
  constructor
  · intro hnone n hspells
    rw [← UInt64.toNat_ofNat_of_lt' hspells.lt_size, ← readCount?_trim_eq_some_iff,
      hnone] at hspells
    cases hspells
  · intro h
    rw [Option.eq_none_iff_forall_ne_some]
    intro n hn
    exact h n.toNat (readCount?_trim_eq_some_iff.mp hn)

/-- The last number that fits, with zeros and blanks around it, and four texts that are none. -/
example :
    readCount? (trim "\u3000+0018446744073709551615\n".toList) = some 18446744073709551615 ∧
    ["18446744073709551616", "++1", "1 2", "٣"].map (fun raw => readCount? (trim raw.toList)) =
      [none, none, none, none] := by
  decide +kernel

end FilterQuery.Text
