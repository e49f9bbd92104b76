import FilterQuery.Percent

/-!
# The alphabet of percent codes

A code is made of characters that stand for themselves and of escapes, a percent sign with two
hexadecimal digits in upper case.  No character of a code has a meaning in a URL, so a code cannot
end the value in which it stands.

* `IsCode`: the texts that are made in this way, spelled out without the writer.
* `isCode_encode`: what the writer makes is one of them.
* `IsCode.mem_alphabet`: the characters of a code.
-/

namespace FilterQuery.Percent

/-- The characters that stand for themselves. -/
def plainCharacters : Text :=
  "ABCDEFGHIJKLMNOPQRSTUVWXYZabcdefghijklmnopqrstuvwxyz0123456789-_.!~*'()".toList

/-- The digits of an escape. -/
def escapeDigits : Text :=
  "0123456789ABCDEF".toList

/-- A text made of plain characters and escapes. -/
inductive IsCode : Text → Prop
  | nil : IsCode []
  | plain {c : Char} {rest : Text} (hc : c ∈ plainCharacters) (hr : IsCode rest) :
      IsCode (c :: rest)
  | escape {high low : Char} {rest : Text} (hh : high ∈ escapeDigits) (hl : low ∈ escapeDigits)
      (hr : IsCode rest) : IsCode ('%' :: high :: low :: rest)

theorem IsCode.append {front back : Text} (hf : IsCode front) (hb : IsCode back) :
    IsCode (front ++ back) := by
  induction hf with
  | nil => exact hb
  | plain hc _ ih => exact .plain hc ih
  | escape hh hl _ ih => exact .escape hh hl ih

/-- The characters of a code. -/
def alphabet : Text :=
  '%' :: plainCharacters

theorem mem_alphabet_of_mem_escapeDigits {c : Char} (h : c ∈ escapeDigits) : c ∈ alphabet := by
  have hall : escapeDigits.all alphabet.contains = true := by decide
  exact List.contains_iff_mem.mp (List.all_eq_true.mp hall c h)

theorem IsCode.mem_alphabet {code : Text} (h : IsCode code) : ∀ c ∈ code, c ∈ alphabet := by
  induction h with
  | nil => simp
  | plain hc _ ih =>
    intro c hm
    rcases List.mem_cons.mp hm with rfl | hm
    · exact List.mem_cons_of_mem _ hc
    · exact ih c hm
  | escape hh hl _ ih =>
    intro c hm
    simp only [List.mem_cons] at hm
    rcases hm with rfl | rfl | rfl | hm
    · exact List.mem_cons_self
    · exact mem_alphabet_of_mem_escapeDigits hh
    · exact mem_alphabet_of_mem_escapeDigits hl
    · exact ih c hm

/-- What is not in the alphabet is in no code. -/
theorem IsCode.notMem {code : Text} (h : IsCode code) {c : Char} (hc : c ∉ alphabet) :
    c ∉ code :=
  fun hm => hc (h.mem_alphabet c hm)

/-! ## What the writer makes -/

theorem toNat_lt_of_isAlphanum {c : Char} (h : c.isAlphanum = true) : c.toNat < 128 := by
  have hle : ∀ last : Char, last.toNat < 128 → c.val ≤ last.val → c.toNat < 128 :=
    fun _ hlast hc => Nat.lt_of_le_of_lt hc hlast
  rcases Bool.or_eq_true_iff.mp h with h | h
  · rcases Bool.or_eq_true_iff.mp h with h | h
    · have hupper : 'A'.val ≤ c.val ∧ c.val ≤ 'Z'.val := of_decide_eq_true h
      exact hle 'Z' (by decide) hupper.2
    · have hlower : decide (c.val ≤ 'z'.val) = true := (Bool.and_eq_true_iff.mp h).2
      exact hle 'z' (by decide) (of_decide_eq_true hlower)
  · have hdigit : decide (c.val ≤ '9'.val) = true := (Bool.and_eq_true_iff.mp h).2
    exact hle '9' (by decide) (of_decide_eq_true hdigit)

theorem toNat_lt_of_unreserved {c : Char} (h : unreserved c = true) : c.toNat < 128 := by
  rw [unreserved, Bool.or_eq_true] at h
  rcases h with h | h
  · exact toNat_lt_of_isAlphanum h
  · have hmarks : "-_.!~*'()".toList.all (fun mark => mark.toNat < 128) = true := by decide
    exact of_decide_eq_true (List.all_eq_true.mp hmarks c (List.contains_iff_mem.mp h))

/-- The unreserved characters are ASCII, so they can be looked through one by one. -/
theorem mem_plainCharacters {c : Char} (h : unreserved c = true) : c ∈ plainCharacters := by
  have hascii : ∀ n < 128, unreserved (Char.ofNat n) = true → Char.ofNat n ∈ plainCharacters := by
    decide +kernel
  have hc := hascii c.toNat (toNat_lt_of_unreserved h)
  rw [Char.ofNat_toNat] at hc
  exact hc h

theorem mem_escapeDigits : ∀ n < 16, Text.hexDigit 'A' n ∈ escapeDigits := by
  decide

theorem isCode_escape (byte : UInt8) : IsCode (escape byte) := by
  have hlt : byte.toNat < 256 := byte.toNat_lt
  exact .escape (mem_escapeDigits _ (by omega)) (mem_escapeDigits _ (by omega)) .nil

theorem isCode_flatMap_escape (bytes : List UInt8) : IsCode (bytes.flatMap escape) := by
  induction bytes with
  | nil => exact .nil
  | cons byte rest ih => exact (isCode_escape byte).append ih

theorem isCode_encodeChar (c : Char) : IsCode (encodeChar c) := by
  unfold encodeChar
  split
  case isTrue h => exact .plain (mem_plainCharacters h) .nil
  case isFalse => exact isCode_flatMap_escape _

/-- **What is written is a code.** -/
theorem isCode_encode (text : Text) : IsCode (encode text) := by
  induction text with
  | nil => exact .nil
  | cons c rest ih =>
    rw [encode_cons]
    exact (isCode_encodeChar c).append ih

end FilterQuery.Percent
