import FilterQuery.Proofs.Percent.Code
import FilterQuery.Proofs.Utf8.RoundTrip

/-!
# Reading back percent codes

The code of a text is read as the text, in front of anything else: an escape is complete in itself,
so what follows a code cannot change how it is read.  Readers that take a plus sign for a space read
codes in the same way, because no code has one.

* `bytes_encode_append`: the bytes of a code are those of its text.
* `decode_encode_append`, `decode_encode`: a text comes back from its code.
* `decodeForm`: the other reader.
-/

namespace FilterQuery.Percent

/-! ## The bytes of a code -/

theorem hexValue?_hexDigit : ∀ n < 16, Text.hexValue? (Text.hexDigit 'A' n) = some n := by
  decide

theorem bytes_escape_append (byte : UInt8) (rest : Text) :
    bytes (escape byte ++ rest) = byte :: bytes rest := by
  have hlt : byte.toNat < 256 := byte.toNat_lt
  have hbyte : Text.hexByte? (Text.hexDigit 'A' (byte.toNat / 16))
      (Text.hexDigit 'A' (byte.toNat % 16)) = some byte.toNat := by
    rw [Text.hexByte?, hexValue?_hexDigit _ (by omega), hexValue?_hexDigit _ (by omega)]
    exact congrArg some (Nat.div_add_mod byte.toNat 16)
  rw [escape, List.cons_append, List.cons_append, List.cons_append, bytes, hbyte]
  exact congrArg (· :: bytes rest) UInt8.ofNat_toNat

theorem bytes_flatMap_escape_append (codes : List UInt8) (rest : Text) :
    bytes (codes.flatMap escape ++ rest) = codes ++ bytes rest := by
  induction codes with
  | nil => rfl
  | cons byte more ih =>
    rw [List.flatMap_cons, List.append_assoc, bytes_escape_append, ih, List.cons_append]

/-- Only a percent sign can open an escape. -/
theorem bytes_cons_of_ne {c : Char} (h : c ≠ '%') (rest : Text) :
    bytes (c :: rest) = String.utf8EncodeChar c ++ bytes rest := by
  rw [bytes]
  rintro high low more rfl
  exact absurd rfl h

theorem ne_percent_of_unreserved {c : Char} (h : unreserved c = true) : c ≠ '%' := by
  rintro rfl
  exact absurd h (by decide)

theorem bytes_encodeChar_append (c : Char) (rest : Text) :
    bytes (encodeChar c ++ rest) = String.utf8EncodeChar c ++ bytes rest := by
  unfold encodeChar
  split
  case isTrue h => exact bytes_cons_of_ne (ne_percent_of_unreserved h) rest
  case isFalse => exact bytes_flatMap_escape_append _ rest

theorem bytes_encode_append (text rest : Text) :
    bytes (encode text ++ rest) = Utf8.encode text ++ bytes rest := by
  induction text with
  | nil => rfl
  | cons c more ih =>
    rw [encode_cons, List.append_assoc, bytes_encodeChar_append, ih, Utf8.encode_cons,
      List.append_assoc]

/-! ## The text of a code -/

/-- **A text comes back from its code**, whatever follows the code. -/
theorem decode_encode_append (text rest : Text) :
    decode (encode text ++ rest) = text ++ decode rest := by
  rw [decode, bytes_encode_append]
  exact Utf8.decode_encode_append text (bytes rest)

@[simp] theorem decode_encode (text : Text) : decode (encode text) = text := by
  have h := decode_encode_append text []
  rwa [List.append_nil, show decode [] = [] from rfl, List.append_nil] at h

/-! ## Plus signs as spaces -/

/-- The text that a code stands for where a plus sign is a space. -/
def decodeForm (code : Text) : Text :=
  decode (code.map fun c => if c = '+' then ' ' else c)

theorem decodeForm_of_notMem {code : Text} (h : '+' ∉ code) : decodeForm code = decode code := by
  have hmap : (code.map fun c => if c = '+' then ' ' else c) = code := by
    refine (List.map_congr_left fun c hc => ?_).trans (List.map_id' code)
    rw [if_neg (by rintro rfl; exact h hc)]
  rw [decodeForm, hmap]

@[simp] theorem decodeForm_encode (text : Text) : decodeForm (encode text) = text := by
  rw [decodeForm_of_notMem ((isCode_encode text).notMem (by decide)), decode_encode]

end FilterQuery.Percent
