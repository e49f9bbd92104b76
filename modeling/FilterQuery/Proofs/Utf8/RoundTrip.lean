import FilterQuery.Utf8

/-!
# Reading back the bytes of a text

The bytes of one character take the reader from `idle` to `idle` and make it write that character,
so a text comes back from its bytes even when other bytes, damaged or not, follow it.

The number of a character is given by digits in base 64, one in each byte on top of a marker.  The
first byte carries the highest digit and says how many follow; the range that it sets for the second
byte is where the digits of a character of that length lie.  This is where overlong forms, the gap
of the surrogates and the end of the code space come in.

* `lead?_two`, `lead?_three`, `lead?_four`: what the first byte says.
* `trace_utf8EncodeChar`: a run over the bytes of one character.
* `decode_encode_append`: a text comes back in front of any bytes.
-/

namespace FilterQuery.Utf8

/-! ## The first byte -/

theorem lead?_two : ∀ high < 32, 2 ≤ high →
    lead? (0xC0 + high) = some (.inside 0 0x80 0xBF high) := by
  decide

/-- The second byte of three rules out overlong forms after digit `0` and surrogates after `13`. -/
theorem lead?_three : ∀ high < 16, lead? (0xE0 + high) =
    some (.inside 1 (if high = 0 then 0xA0 else 0x80) (if high = 13 then 0x9F else 0xBF) high) := by
  decide

/-- The second byte of four rules out overlong forms after digit `0` and what is above `U+10FFFF`
after digit `4`. -/
theorem lead?_four : ∀ high < 5, lead? (0xF0 + high) =
    some (.inside 2 (if high = 0 then 0x90 else 0x80) (if high = 4 then 0x8F else 0xBF) high) := by
  decide

/-! ## Runs over a marker with a digit -/

theorem toNat_ofNat_add {digit marker : Nat} (h : marker + digit < 256) :
    (UInt8.ofNat (digit + marker)).toNat = marker + digit := by
  rw [UInt8.toNat_ofNat', Nat.add_comm]
  exact Nat.mod_eq_of_lt h

theorem trace_idle_of_lt {byte : Nat} (h : byte < 0x80) :
    trace .idle [UInt8.ofNat byte] = ([Char.ofNat byte], .idle) := by
  have hb : (UInt8.ofNat byte).toNat = byte := by
    rw [UInt8.toNat_ofNat']
    exact Nat.mod_eq_of_lt (by omega)
  simp only [trace, hb, step, start, if_pos h]
  rfl

/-- The first byte of a character writes nothing. -/
theorem trace_idle_of_lead? {digit marker : Nat} {state : State} (rest : List UInt8)
    (h : 0x80 ≤ marker) (h' : marker + digit < 256) (hl : lead? (marker + digit) = some state) :
    trace .idle (UInt8.ofNat (digit + marker) :: rest) = trace state rest := by
  have hstep : step .idle (marker + digit) = ([], state) := by
    rw [step, start, if_neg (by omega), hl]
  simp only [trace, toNat_ofNat_add h', hstep, List.nil_append]

/-- A byte in the middle of a character adds its digit. -/
theorem trace_inside_succ {more low high bits digit : Nat} (rest : List UInt8) (hd : digit < 64)
    (h : low ≤ 0x80 + digit) (h' : 0x80 + digit ≤ high) :
    trace (.inside (more + 1) low high bits) (UInt8.ofNat (digit + 0x80) :: rest) =
      trace (.inside more 0x80 0xBF (bits * 64 + digit)) rest := by
  have hstep : step (.inside (more + 1) low high bits) (0x80 + digit) =
      ([], .inside more 0x80 0xBF (bits * 64 + digit)) := by
    rw [step, if_pos ⟨h, h'⟩, Nat.add_sub_cancel_left]
  rw [trace, toNat_ofNat_add (by omega), hstep, List.nil_append]

/-- The last byte of a character completes it. -/
theorem trace_inside_zero {low high bits digit : Nat} (hd : digit < 64)
    (h : low ≤ 0x80 + digit) (h' : 0x80 + digit ≤ high) :
    trace (.inside 0 low high bits) [UInt8.ofNat (digit + 0x80)] =
      ([Char.ofNat (bits * 64 + digit)], .idle) := by
  have hstep : step (.inside 0 low high bits) (0x80 + digit) =
      ([Char.ofNat (bits * 64 + digit)], .idle) := by
    rw [step, if_pos ⟨h, h'⟩, Nat.add_sub_cancel_left]
  rw [trace, toNat_ofNat_add (by omega), hstep]
  rfl

/-! ## Whole characters -/

/-- **The bytes of a character are read as that character**, and the reader is between two
characters again. -/
theorem trace_utf8EncodeChar (c : Char) :
    trace .idle (String.utf8EncodeChar c) = ([c], .idle) := by
  have hvalid : c.val.toNat < 0xD800 ∨ 0xDFFF < c.val.toNat ∧ c.val.toNat < 0x110000 := c.valid
  have hc : Char.ofNat c.val.toNat = c := Char.ofNat_toNat c
  rw [String.utf8EncodeChar]
  generalize c.val.toNat = v at hvalid hc ⊢
  subst hc
  -- one case for each number of bytes
  split
  · exact trace_idle_of_lt (by omega)
  split
  · rw [trace_idle_of_lead? _ (by omega) (by omega) (lead?_two _ (by omega) (by omega)),
      trace_inside_zero (by omega) (by omega) (by omega)]
    congr 3
    omega
  split
  · rw [trace_idle_of_lead? _ (by omega) (by omega) (lead?_three _ (by omega)),
      trace_inside_succ _ (by omega) (by split <;> omega) (by split <;> omega),
      trace_inside_zero (by omega) (by omega) (by omega)]
    congr 3
    omega
  · rw [trace_idle_of_lead? _ (by omega) (by omega) (lead?_four _ (by omega)),
      trace_inside_succ _ (by omega) (by split <;> omega) (by split <;> omega),
      trace_inside_succ _ (by omega) (by omega) (by omega),
      trace_inside_zero (by omega) (by omega) (by omega)]
    congr 3
    omega

/-- **A text comes back from its bytes**, whatever bytes follow them. -/
theorem decode_encode_append (text : Text) (rest : List UInt8) :
    decode (encode text ++ rest) = text ++ decode rest := by
  induction text with
  | nil => rfl
  | cons c more ih =>
    rw [encode_cons, List.append_assoc, decode, run_append, trace_utf8EncodeChar]
    exact congrArg (c :: ·) ih

end FilterQuery.Utf8
