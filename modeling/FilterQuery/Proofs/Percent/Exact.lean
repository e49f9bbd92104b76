import FilterQuery.Proofs.Percent.RoundTrip

/-!
# Codes are undone exactly

That a text comes back from its code would also be true if nothing were ever encoded.  The two
directions are therefore held to the rules of the format as well, which are written out here with
the characters and the digits that they name: `written` is what the format writes for a character,
and `StandsFor` says which bytes a text stands for when it is read.

* `encode_eq_flatMap_written`: the writer keeps to the rule.
* `IsHexDigit`, `StandsFor`: the rule of the reader.
* `standsFor_iff`: the reader keeps to it, and it leaves no choice.
* `codes_undone`: reading undoes writing, in front of any text.
-/

namespace FilterQuery.Percent

/-! ## The rule of the writer -/

/-- What the format writes for a character: a plain one is written as itself, and any other as its
UTF-8 bytes, each with a percent sign in front and two digits in upper case. -/
def written (c : Char) : Text :=
  if c ∈ plainCharacters then
    [c]
  else
    (String.utf8EncodeChar c).flatMap fun byte =>
      ['%', escapeDigits.getD (byte.toNat / 16) '0', escapeDigits.getD (byte.toNat % 16) '0']

theorem unreserved_eq_true_iff {c : Char} : unreserved c = true ↔ c ∈ plainCharacters := by
  refine ⟨mem_plainCharacters, fun hc => ?_⟩
  have hall : plainCharacters.all unreserved = true := by decide
  exact List.all_eq_true.mp hall c hc

theorem hexDigit_eq_getD : ∀ n < 16, Text.hexDigit 'A' n = escapeDigits.getD n '0' := by
  decide

theorem encodeChar_eq_written (c : Char) : encodeChar c = written c := by
  have hescape : ∀ byte : UInt8, escape byte =
      ['%', escapeDigits.getD (byte.toNat / 16) '0', escapeDigits.getD (byte.toNat % 16) '0'] := by
    intro byte
    have hlt : byte.toNat < 256 := byte.toNat_lt
    rw [escape, hexDigit_eq_getD _ (by omega), hexDigit_eq_getD _ (by omega)]
  rw [encodeChar, written, funext hescape]
  simp only [unreserved_eq_true_iff]

theorem encode_eq_flatMap_written (text : Text) : encode text = text.flatMap written := by
  rw [encode, funext encodeChar_eq_written]

/-! ## The rule of the reader -/

/-- A character is the hexadecimal digit of a number, in either case. -/
def IsHexDigit (n : Nat) (c : Char) : Prop :=
  "0123456789ABCDEF".toList[n]? = some c ∨ "0123456789abcdef".toList[n]? = some c

instance (n : Nat) (c : Char) : Decidable (IsHexDigit n c) :=
  inferInstanceAs (Decidable (_ ∨ _))

/-- The bytes that a text stands for.  A percent sign and two digits are one byte.  Every other
character is there for its own bytes, a percent sign included that no two digits follow. -/
inductive StandsFor : Text → List UInt8 → Prop
  | nil : StandsFor [] []
  | escape {m n : Nat} {high low : Char} {rest : Text} {bytes : List UInt8}
      (hh : IsHexDigit m high) (hl : IsHexDigit n low) (hr : StandsFor rest bytes) :
      StandsFor ('%' :: high :: low :: rest) (UInt8.ofNat (16 * m + n) :: bytes)
  | other {c : Char} {rest : Text} {bytes : List UInt8}
      (hc : ∀ m n high low more, IsHexDigit m high → IsHexDigit n low →
        c :: rest ≠ '%' :: high :: low :: more)
      (hr : StandsFor rest bytes) : StandsFor (c :: rest) (String.utf8EncodeChar c ++ bytes)

theorem lt_of_isHexDigit {n : Nat} {c : Char} (h : IsHexDigit n c) : n < 16 := by
  rcases h with h | h
  · exact (List.getElem?_eq_some_iff.mp h).1
  · exact (List.getElem?_eq_some_iff.mp h).1

/-- Only ASCII characters are digits, so they can be looked through one by one. -/
theorem toNat_lt_of_hexValue? {n : Nat} {c : Char} (h : Text.hexValue? c = some n) :
    c.toNat < 128 := by
  have hle : ∀ last : Char, last.toNat < 128 → c ≤ last → c.toNat < 128 :=
    fun last hlast hc => Nat.lt_of_le_of_lt hc hlast
  rw [Text.hexValue?] at h
  split at h
  case isTrue hc => exact hle '9' (by decide) hc.2
  case isFalse =>
  split at h
  case isTrue hc => exact hle 'F' (by decide) hc.2
  case isFalse =>
  split at h
  case isTrue hc => exact hle 'f' (by decide) hc.2
  case isFalse => cases h

theorem hexValue?_eq_some_iff {n : Nat} {c : Char} :
    Text.hexValue? c = some n ↔ IsHexDigit n c := by
  constructor
  · intro h
    have hall : ∀ k < 128, ∀ n ∈ Text.hexValue? (Char.ofNat k), IsHexDigit n (Char.ofNat k) := by
      decide +kernel
    have hc := hall c.toNat (toNat_lt_of_hexValue? h)
    rw [Char.ofNat_toNat] at hc
    exact hc n h
  · intro h
    have hall : ∀ k < 16, "0123456789ABCDEF".toList[k]?.bind Text.hexValue? = some k ∧
        "0123456789abcdef".toList[k]?.bind Text.hexValue? = some k := by
      decide
    obtain ⟨hupper, hlower⟩ := hall n (lt_of_isHexDigit h)
    rcases h with hc | hc
    · rwa [hc] at hupper
    · rwa [hc] at hlower

theorem hexByte?_eq_some_iff {high low : Char} {byte : Nat} :
    Text.hexByte? high low = some byte ↔
      ∃ m n, IsHexDigit m high ∧ IsHexDigit n low ∧ 16 * m + n = byte := by
  simp only [← hexValue?_eq_some_iff, Text.hexByte?]
  cases Text.hexValue? high <;> cases Text.hexValue? low <;> simp

theorem standsFor_bytes (text : Text) : StandsFor text (bytes text) := by
  fun_induction bytes text with
  | case1 high low rest byte hbyte ih =>
    obtain ⟨m, n, hh, hl, rfl⟩ := hexByte?_eq_some_iff.mp hbyte
    exact .escape hh hl ih
  | case2 high low rest hnone ih =>
    refine .other ?_ ih
    rintro m n high' low' more hh hl heq
    cases heq
    rw [hexByte?_eq_some_iff.mpr ⟨m, n, hh, hl, rfl⟩] at hnone
    cases hnone
  | case3 c rest hc ih =>
    refine .other ?_ ih
    rintro m n high low more hh hl heq
    cases heq
    exact hc high low more rfl rfl
  | case4 => exact .nil

/-- A character that opens no escape is read as itself. -/
theorem bytes_cons_of_hexByte? {c : Char} {rest : Text}
    (h : ∀ high low more, c = '%' → rest = high :: low :: more →
      Text.hexByte? high low = none) :
    bytes (c :: rest) = String.utf8EncodeChar c ++ bytes rest := by
  by_cases hescape : ∃ high low more, c = '%' ∧ rest = high :: low :: more
  · obtain ⟨high, low, more, rfl, rfl⟩ := hescape
    rw [bytes, h high low more rfl rfl]
  · rw [bytes]
    rintro high low more rfl rfl
    exact hescape ⟨high, low, more, rfl, rfl⟩

/-- **A text stands for just the bytes that are read from it.** -/
theorem standsFor_iff {text : Text} {codes : List UInt8} :
    StandsFor text codes ↔ bytes text = codes := by
  refine ⟨fun h => ?_, fun h => h ▸ standsFor_bytes text⟩
  induction h with
  | nil => rfl
  | escape hh hl hr ih =>
    rw [bytes, hexByte?_eq_some_iff.mpr ⟨_, _, hh, hl, rfl⟩, ← ih]
  | other hc hr ih =>
    rw [← ih]
    refine bytes_cons_of_hexByte? ?_
    rintro high low more rfl rfl
    rw [Option.eq_none_iff_forall_ne_some]
    intro byte hbyte
    obtain ⟨m, n, hh, hl, -⟩ := hexByte?_eq_some_iff.mp hbyte
    exact hc m n high low more hh hl rfl

/-! ## Both directions -/

theorem encode_inj {text other : Text} : encode text = encode other ↔ text = other := by
  refine ⟨fun h => ?_, congrArg encode⟩
  have hdecode := congrArg decode h
  rwa [decode_encode, decode_encode] at hdecode

/-- **Reading undoes writing, whatever follows.**  A text comes back from its code even where more
text is behind it, which may open with digits, with a percent sign or with the rest of a character.
So no two texts share a code, and the code of a text may be written in pieces.  Both directions keep
to the rules of the format: a code is what is written for one character after another, and any text
is read as the bytes that it stands for. -/
theorem codes_undone (front back : Text) :
    decode (encode front ++ back) = front ++ decode back ∧
    decode (encode front) = front ∧
    (∀ other, encode front = encode other ↔ front = other) ∧
    encode (front ++ back) = encode front ++ encode back ∧
    encode front = front.flatMap written ∧
    ∃ codes, (∀ other, StandsFor back other ↔ other = codes) ∧ decode back = Utf8.decode codes :=
  ⟨decode_encode_append front back, decode_encode front, fun _ => encode_inj,
    encode_append front back, encode_eq_flatMap_written front, bytes back,
    fun _ => standsFor_iff.trans eq_comm, rfl⟩

/-- A code that ends in an escaped percent sign, in front of digits, of the rest of a character and
of a percent sign. -/
example :
    encode "ü%".toList = "%C3%BC%25".toList ∧
    decode ("%C3%BC%25".toList ++ "41%A9%zz".toList) = "ü%41\uFFFD%zz".toList := by
  decide +kernel

end FilterQuery.Percent
