import FilterQuery.Proofs.Json.Grammar

/-!
# Strings are read and written by the grammar

The reader of strings gives the text back from each of its codes, and stops behind the quote that
closes it: whatever character a text has, its code never has a bare quote, so nothing in a text can
end its string early.  The writer uses one of these codes, and none with a control character.

* `Quoted.read_append`: each code is read as its text.
* `Quoted.spells_flatMap_writeChar`: what is written is one of the codes.
* `le_of_mem_write`: what is written has no control characters.
-/

namespace FilterQuery.Json.Quoted

variable {use : Use} {text code rest : Text}

/-! ## Reading -/

@[simp] theorem push_ok (c : Char) (text rest : Text) :
    push c (.ok (text, rest)) = .ok (c :: text, rest) := rfl

theorem read_quote (use : Use) (rest : Text) : read use ('"' :: rest) = .ok ([], rest) := by
  rw [read]

theorem read_plain {c : Char} (hq : c ≠ '"') (hb : c ≠ '\\') (hc : ' ' ≤ c) (rest : Text) :
    read use (c :: rest) = push c (read use rest) := by
  have hlt : ¬ c < ' ' := Char.not_lt.mpr hc
  rw [read, if_neg hlt]
  · exact hq
  all_goals intros; contradiction

/-- The letter `u` belongs to code units, and is no letter of a character. -/
theorem ne_u_of_escaped? {letter c : Char} (h : escaped? letter = some c) : letter ≠ 'u' := by
  rintro rfl
  have hnone : escaped? 'u' = none := by decide
  rw [hnone] at h
  exact Option.some_ne_none c h.symm

theorem read_letter {letter c : Char} (h : escaped? letter = some c) (rest : Text) :
    read use ('\\' :: letter :: rest) = push c (read use rest) := by
  have hu := ne_u_of_escaped? h
  rw [read, h]
  all_goals intros; contradiction

theorem read_unit {a b c d : Char} {unit : Nat} (h : unit? a b c d = some unit)
    (hs : use = .skipped ∨ isHigh unit = false ∧ isLow unit = false) (rest : Text) :
    read use ('\\' :: 'u' :: a :: b :: c :: d :: rest) =
      push (Char.ofNat unit) (read use rest) := by
  rw [read, h]
  rcases hs with rfl | ⟨hhigh, hlow⟩
  · rfl
  · by_cases hk : use = .skipped
    · simp [hk]
    · simp [hk, hhigh, hlow]

/-- The two halves of the surrogates do not overlap. -/
theorem isLow_eq_false_of_isHigh {unit : Nat} (h : isHigh unit = true) : isLow unit = false := by
  simp only [isHigh, isLow, Bool.and_eq_true, Bool.and_eq_false_iff, decide_eq_true_eq,
    decide_eq_false_iff_not] at h ⊢
  omega

theorem read_pair {a₁ b₁ c₁ d₁ a₂ b₂ c₂ d₂ : Char} {high low : Nat}
    (hu : unit? a₁ b₁ c₁ d₁ = some high) (hh : isHigh high = true)
    (hu' : unit? a₂ b₂ c₂ d₂ = some low) (hl : isLow low = true) (rest : Text) :
    read .kept
        ('\\' :: 'u' :: a₁ :: b₁ :: c₁ :: d₁ :: '\\' :: 'u' :: a₂ :: b₂ :: c₂ :: d₂ :: rest) =
      push (pairChar high low) (read .kept rest) := by
  rw [read, hu]
  simp [isLow_eq_false_of_isHigh hh, hh, hu', hl]

/-- **Each code of a text is read as the text**, up to the quote behind it. -/
theorem read_append (h : Spells use text code) (rest : Text) :
    read use (code ++ '"' :: rest) = .ok (text, rest) := by
  induction h with
  | nil => exact read_quote use rest
  | plain hq hb hc _ ih => rw [List.cons_append, read_plain hq hb hc, ih, push_ok]
  | letter hl _ ih => rw [List.cons_append, List.cons_append, read_letter hl, ih, push_ok]
  | unit hu hs _ ih =>
    simp only [List.cons_append]
    rw [read_unit hu hs, ih, push_ok]
  | pair hk hu hh hu' hl _ ih =>
    subst hk
    simp only [List.cons_append]
    rw [read_pair hu hh hu' hl, ih, push_ok]

/-! ## Writing -/

theorem Spells.append {text' code' : Text} (h : Spells use text code)
    (h' : Spells use text' code') : Spells use (text ++ text') (code ++ code') := by
  induction h with
  | nil => exact h'
  | plain hq hb hc _ ih => exact .plain hq hb hc ih
  | letter hl _ ih => exact .letter hl ih
  | unit hu hs _ ih => exact .unit hu hs ih
  | pair hk hu hh hu' hl _ ih => exact .pair hk hu hh hu' hl ih

/-- The letters that are written after a backslash, each with its character. -/
def letters : List (Char × Char) :=
  [('"', '"'), ('\\', '\\'), ('b', '\x08'), ('f', '\x0C'), ('n', '\n'), ('r', '\r'), ('t', '\t')]

theorem writeChar_of_mem : ∀ pair ∈ letters, writeChar pair.2 = ['\\', pair.1] ∧
    escaped? pair.1 = some pair.2 ∧ ' ' ≤ pair.1 := by
  decide

/-- The control characters have code units below the surrogates. -/
theorem unit?_control : ∀ n < 32,
    unit? '0' '0' (Text.hexDigit 'a' (n / 16)) (Text.hexDigit 'a' (n % 16)) = some n ∧
      isHigh n = false ∧ isLow n = false := by
  decide

/-- A character is written by its letter, by its code unit where it is a control character without
a letter, and as itself otherwise. -/
theorem writeChar_cases (c : Char) :
    (∃ letter, writeChar c = ['\\', letter] ∧ escaped? letter = some c ∧ ' ' ≤ letter) ∨
    (c.toNat < 32 ∧ writeChar c = ['\\', 'u', '0', '0', Text.hexDigit 'a' (c.toNat / 16),
      Text.hexDigit 'a' (c.toNat % 16)]) ∨
    (c ≠ '"' ∧ c ≠ '\\' ∧ ' ' ≤ c ∧ writeChar c = [c]) := by
  by_cases hm : c ∈ letters.map Prod.snd
  · obtain ⟨pair, hpair, rfl⟩ := List.mem_map.mp hm
    exact Or.inl ⟨pair.1, writeChar_of_mem pair hpair⟩
  · simp only [letters, List.map_cons, List.map_nil, List.mem_cons, List.not_mem_nil, or_false,
      not_or] at hm
    obtain ⟨h₁, h₂, h₃, h₄, h₅, h₆, h₇⟩ := hm
    have hwrite : writeChar c = if c < ' ' then
        ['\\', 'u', '0', '0', Text.hexDigit 'a' (c.toNat / 16), Text.hexDigit 'a' (c.toNat % 16)]
        else [c] := by
      simp only [writeChar, h₁, h₂, h₃, h₄, h₅, h₆, h₇, if_false]
    by_cases hc : c < ' '
    · exact Or.inr (Or.inl ⟨hc, by rw [hwrite, if_pos hc]⟩)
    · exact Or.inr (Or.inr ⟨h₁, h₂, Char.not_lt.mp hc, by rw [hwrite, if_neg hc]⟩)

theorem spells_writeChar (c : Char) : Spells .kept [c] (writeChar c) := by
  rcases writeChar_cases c with ⟨letter, hw, hl, -⟩ | ⟨hc, hw⟩ | ⟨hq, hb, hc, hw⟩
  · rw [hw]
    exact .letter hl .nil
  · obtain ⟨hu, hhigh, hlow⟩ := unit?_control c.toNat hc
    have hunit := Spells.unit hu (Or.inr ⟨hhigh, hlow⟩) (.nil : Spells .kept [] [])
    rwa [Char.ofNat_toNat, ← hw] at hunit
  · rw [hw]
    exact .plain hq hb hc .nil

/-- **What is written is a code of the text.** -/
theorem spells_flatMap_writeChar (text : Text) : Spells .kept text (text.flatMap writeChar) := by
  induction text with
  | nil => exact .nil
  | cons c rest ih => exact (spells_writeChar c).append ih

theorem spellsString_write (text : Text) : SpellsString .kept text (write text) :=
  ⟨_, spells_flatMap_writeChar text, rfl⟩

/-! ## No control characters -/

theorem le_hexDigit : ∀ n < 16, ' ' ≤ Text.hexDigit 'a' n := by
  decide

theorem le_of_mem_writeChar {c d : Char} (h : d ∈ writeChar c) : ' ' ≤ d := by
  rcases writeChar_cases c with ⟨letter, hw, -, hle⟩ | ⟨hc, hw⟩ | ⟨-, -, hle, hw⟩
  · rw [hw] at h
    simp only [List.mem_cons, List.not_mem_nil, or_false] at h
    rcases h with rfl | rfl
    · decide
    · exact hle
  · rw [hw] at h
    simp only [List.mem_cons, List.not_mem_nil, or_false] at h
    rcases h with rfl | rfl | rfl | rfl | rfl | rfl
    iterate 4 · decide
    · exact le_hexDigit _ (by omega)
    · exact le_hexDigit _ (by omega)
  · rw [hw, List.mem_singleton] at h
    rwa [h]

/-- **A string is written without control characters.** -/
theorem le_of_mem_write {d : Char} (h : d ∈ write text) : ' ' ≤ d := by
  rw [write, List.cons_append, List.mem_cons, List.mem_append, List.mem_singleton] at h
  rcases h with rfl | h | rfl
  · decide
  · obtain ⟨c, -, hd⟩ := List.mem_flatMap.mp h
    exact le_of_mem_writeChar hd
  · decide

end FilterQuery.Json.Quoted
