import FilterQuery.Proofs.Percent.Exact
import FilterQuery.Proofs.Utf8.Damage

/-!
# Damage stays where it is

A value comes from outside, and its escapes may be cut off, or may stand for bytes that are no
text.  Two boundaries keep such damage from spreading.  A character that is no hexadecimal digit
cannot be part of an escape that opens in front of it, so the bytes of a text are found on either
side of it separately.  And no byte that stands inside a character begins one, so the bytes in front
of a character have no part in how it is read.

Reading never makes a text longer.  An escape gives up three characters for one byte, and a byte is
worth one character at most.

* `HasEscape`: the texts in which something is escaped.
* `bytes_append_cons`: where the bytes of a text can be cut.
* `decode_append_cons`: where the text itself can be cut.
* `length_run_le`, `length_decode_lt`: reading makes no text longer, and one with an escape shorter.
* `damage_stays_local`: all of it together.
-/

namespace FilterQuery.Percent

variable {front back text : Text} {c : Char}

/-- Somewhere in a text a percent sign stands in front of two hexadecimal digits. -/
def HasEscape (text : Text) : Prop :=
  ∃ m n front high low back, IsHexDigit m high ∧ IsHexDigit n low ∧
    text = front ++ '%' :: high :: low :: back

theorem HasEscape.cons (h : HasEscape text) (c : Char) : HasEscape (c :: text) := by
  obtain ⟨m, n, front, high, low, back, hhigh, hlow, rfl⟩ := h
  exact ⟨m, n, c :: front, high, low, back, hhigh, hlow, rfl⟩

/-! ## Cutting the bytes of a text -/

theorem not_isHexDigit_of_hexValue? (h : Text.hexValue? c = none) (n : Nat) :
    ¬ IsHexDigit n c := by
  intro hdigit
  rw [hexValue?_eq_some_iff.mpr hdigit] at h
  cases h

/-- Two characters at the front of a text are in front of a given one, or this is one of them. -/
theorem eq_or_exists_of_append_cons {rest after : Text} {high low : Char}
    (h : rest ++ c :: back = high :: low :: after) :
    c = high ∨ c = low ∨ ∃ others, rest = high :: low :: others := by
  cases rest with
  | nil => exact Or.inl (List.cons.inj h).1
  | cons first rest =>
    obtain ⟨hhigh, hrest⟩ := List.cons.inj h
    cases rest with
    | nil => exact Or.inr (Or.inl (List.cons.inj hrest).1)
    | cons second others =>
      obtain ⟨hlow, -⟩ := List.cons.inj hrest
      exact Or.inr (Or.inr ⟨others, by rw [hhigh, hlow]⟩)

/-- No escape reaches over a character that is no digit. -/
theorem StandsFor.append_cons {codes more : List UInt8} (hf : StandsFor front codes)
    (hc : ∀ n, ¬ IsHexDigit n c) (hb : StandsFor (c :: back) more) :
    StandsFor (front ++ c :: back) (codes ++ more) := by
  induction hf with
  | nil => exact hb
  | escape hh hl _ ih => exact .escape hh hl ih
  | other hother _ ih =>
    rw [List.append_assoc]
    refine .other ?_ ih
    intro m n high low after hh hl heq
    obtain ⟨hpercent, heq⟩ := List.cons.inj heq
    rcases eq_or_exists_of_append_cons heq with rfl | rfl | ⟨others, hrest⟩
    · exact hc m hh
    · exact hc n hl
    · exact hother m n high low others hh hl (by rw [hpercent, hrest])

/-- **The bytes of a text can be cut in front of a character that is no digit.** -/
theorem bytes_append_cons (hc : ∀ n, ¬ IsHexDigit n c) (front back : Text) :
    bytes (front ++ c :: back) = bytes front ++ bytes (c :: back) :=
  standsFor_iff.mp ((standsFor_bytes front).append_cons hc (standsFor_bytes (c :: back)))

/-- **A text is read on either side of a character separately**, be it damaged there or not. -/
theorem decode_append_cons (hne : c ≠ '%') (hc : ∀ n, ¬ IsHexDigit n c) (front back : Text) :
    decode (front ++ c :: back) = decode front ++ c :: decode back := by
  have hsound : (Utf8.trace .idle (bytes front)).2.Sound :=
    Utf8.trace_sound Utf8.State.sound_idle (bytes front)
  have hfront : decode front = (Utf8.trace .idle (bytes front)).1 ++
      Utf8.finish (Utf8.trace .idle (bytes front)).2 := Utf8.run_eq_trace .idle (bytes front)
  rw [decode, bytes_append_cons hc, bytes_cons_of_ne hne, Utf8.decode, Utf8.run_append,
    Utf8.run_utf8EncodeChar_append hsound, hfront, List.append_assoc]
  rfl

/-! ## Lengths -/

/-- A text gives at most one character for each of its own, beside what is pending before it. -/
theorem length_run_le {state : Utf8.State} {codes : List UInt8} (h : StandsFor text codes)
    (hstate : state.Sound) :
    (Utf8.run state codes).length ≤ (Utf8.finish state).length + text.length := by
  induction h generalizing state with
  | nil => exact Nat.le_refl _
  | escape _ _ _ ih =>
    refine Nat.le_trans (Utf8.length_run_cons_le (ih (Utf8.step_sound state _))) ?_
    simp only [List.length_cons]
    omega
  | other _ _ ih =>
    have hrest := ih Utf8.State.sound_idle
    rw [Utf8.finish, List.length_nil] at hrest
    rw [Utf8.run_utf8EncodeChar_append hstate, Utf8.decode, List.length_append, List.length_cons,
      List.length_cons]
    omega

theorem length_decode_le (text : Text) : (decode text).length ≤ text.length := by
  have h := length_run_le (standsFor_bytes text) Utf8.State.sound_idle
  rwa [Utf8.finish, List.length_nil, Nat.zero_add] at h

/-- An escape takes three characters and gives one at most. -/
theorem length_decode_lt (h : HasEscape text) : (decode text).length < text.length := by
  obtain ⟨m, n, front, high, low, back, hhigh, hlow, rfl⟩ := h
  have hbytes : bytes ('%' :: high :: low :: back) = UInt8.ofNat (16 * m + n) :: bytes back :=
    standsFor_iff.mp (.escape hhigh hlow (standsFor_bytes back))
  have hback := Utf8.length_run_cons_le (length_run_le (standsFor_bytes back)
    (Utf8.step_sound (Utf8.trace .idle (bytes front)).2 (UInt8.ofNat (16 * m + n)).toNat))
  have hfront := length_decode_le front
  rw [decode, Utf8.decode, Utf8.run_eq_trace, List.length_append] at hfront
  have hpercent : ∀ k, ¬ IsHexDigit k '%' := not_isHexDigit_of_hexValue? rfl
  rw [decode, bytes_append_cons hpercent, hbytes, Utf8.decode, Utf8.run_append,
    List.length_append, List.length_append, List.length_cons, List.length_cons, List.length_cons]
  omega

/-! ## Texts without escapes -/

/-- A text in which nothing is escaped stands for its own bytes. -/
theorem bytes_of_not_hasEscape (h : ¬ HasEscape text) : bytes text = Utf8.encode text := by
  induction text with
  | nil => rfl
  | cons c rest ih =>
    have hother : StandsFor (c :: rest) (String.utf8EncodeChar c ++ bytes rest) := by
      refine .other ?_ (standsFor_bytes rest)
      intro m n high low more hhigh hlow heq
      exact h ⟨m, n, [], high, low, more, hhigh, hlow, heq⟩
    rw [standsFor_iff.mp hother, ih fun hrest => h (hrest.cons c), Utf8.encode_cons]

theorem decode_eq_self_iff : decode text = text ↔ ¬ HasEscape text := by
  constructor
  · intro hself hescape
    have hlt := length_decode_lt hescape
    rw [hself] at hlt
    exact Nat.lt_irrefl _ hlt
  · intro h
    have hdecode := Utf8.decode_encode_append text []
    rw [List.append_nil, show Utf8.decode [] = [] from rfl, List.append_nil] at hdecode
    rw [decode, bytes_of_not_hasEscape h, hdecode]

/-! ## All of it -/

/-- **Damage stays where it is.**  A character that is neither a percent sign nor a digit parts what
is read before it from what is read behind it, whatever is cut off or damaged on either side.  No
text becomes longer when it is read, and only a text without escapes remains as it is.  What is read
is in each case what the rule of damaged bytes says of the bytes that a text stands for. -/
theorem damage_stays_local :
    (∀ (front back : Text) (c : Char), c ≠ '%' → (∀ n, ¬ IsHexDigit n c) →
      decode (front ++ c :: back) = decode front ++ c :: decode back) ∧
    (∀ text, (decode text).length ≤ text.length) ∧
    (∀ text, decode text = text ↔ ¬ HasEscape text) ∧
    ∀ text, ∃ codes, (∀ other, StandsFor text other ↔ other = codes) ∧
      ∀ other, Utf8.Reads codes other ↔ other = decode text :=
  ⟨fun front back _ hne hc => decode_append_cons hne hc front back, length_decode_le,
    fun _ => decode_eq_self_iff,
    fun text => ⟨bytes text, fun _ => standsFor_iff.trans eq_comm,
      fun _ => Utf8.reads_iff.trans eq_comm⟩⟩

/-- An escape and a character that are cut off, then a character that is whole, and behind it the
rest of the one that was cut off. -/
theorem damage_stays_local_fragments :
    let front := "%4%E2%82".toList
    let back := "%AC%".toList
    'ü' ≠ '%' ∧ (∀ n, ¬ IsHexDigit n 'ü') ∧
    decode (front ++ 'ü' :: back) = "%4\uFFFDü\uFFFD%".toList ∧
    (decode (front ++ 'ü' :: back)).length ≤ (front ++ 'ü' :: back).length ∧
    decode front ≠ front ∧ HasEscape front := by
  intro front back
  have hne : 'ü' ≠ '%' := by decide
  have hdigit : ∀ n, ¬ IsHexDigit n 'ü' := not_isHexDigit_of_hexValue? rfl
  obtain ⟨hlocal, hlength, hself, -⟩ := damage_stays_local
  have hfront : decode front = "%4\uFFFD".toList := by decide +kernel
  have hback : decode back = "\uFFFD%".toList := by decide +kernel
  have hchanged : decode front ≠ front := by
    rw [hfront]
    decide
  refine ⟨hne, hdigit, ?_, hlength _, hchanged, ?_⟩
  · rw [hlocal front back 'ü' hne hdigit, hfront, hback]
    decide
  · by_contra hplain
    exact hchanged ((hself front).mpr hplain)

end FilterQuery.Percent
