import FilterQuery.Text.Hex
import FilterQuery.Utf8

/-!
# Percent encoding

A value is written into a URL so that nothing in it can be taken for structure.  The characters
that stay as they are form the set `unreserved`: the ASCII letters and digits and the marks
`- _ . ! ~ * ' ( )`.  Any other character is written as its UTF-8 bytes, each as a percent sign and
two hexadecimal digits in upper case.

Reading is never refused.  A percent sign that no two hexadecimal digits follow stands for itself,
a plus sign is a plus sign, and bytes that are not UTF-8 are read as `Utf8.decode` reads them.

* `Percent.encode`, `Percent.decode`: the two directions.
* `encode_append`: the code of a text is the codes of its characters in a row.
-/

namespace FilterQuery.Percent

/-- Whether a character is written as itself. -/
def unreserved (c : Char) : Bool :=
  c.isAlphanum || "-_.!~*'()".toList.contains c

/-! ## Writing -/

/-- A byte as a percent sign and two digits. -/
def escape (byte : UInt8) : Text :=
  ['%', Text.hexDigit 'A' (byte.toNat / 16), Text.hexDigit 'A' (byte.toNat % 16)]

/-- The code of one character. -/
def encodeChar (c : Char) : Text :=
  if unreserved c then [c] else (String.utf8EncodeChar c).flatMap escape

/-- The code of a text. -/
def encode (text : Text) : Text :=
  text.flatMap encodeChar

@[simp] theorem encode_cons (c : Char) (rest : Text) :
    encode (c :: rest) = encodeChar c ++ encode rest := by
  simp [encode]

@[simp] theorem encode_append (front back : Text) :
    encode (front ++ back) = encode front ++ encode back := by
  simp [encode]

/-! ## Reading -/

/-- The bytes that a text stands for: an escape is one byte, any other character its UTF-8
bytes. -/
def bytes : Text → List UInt8
  | '%' :: high :: low :: rest =>
    match Text.hexByte? high low with
    | some byte => UInt8.ofNat byte :: bytes rest
    | none => String.utf8EncodeChar '%' ++ bytes (high :: low :: rest)
  | c :: rest => String.utf8EncodeChar c ++ bytes rest
  | [] => []

/-- The text that a code stands for. -/
def decode (code : Text) : Text :=
  Utf8.decode (bytes code)

end FilterQuery.Percent
