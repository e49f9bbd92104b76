import FilterQuery.Json.Fault
import FilterQuery.Text.Hex
import FilterQuery.Utf8

/-!
# Strings between quotes

In a JSON string a quote, a backslash and the control characters below `U+0020` have to be escaped;
any other character may be.  An escape `\u` names a 16-bit code unit by four hexadecimal digits, and
a character outside the basic plane is two of them, a surrogate pair.

`Quoted.write` escapes only what has to be escaped, by the short form where there is one, and
leaves everything else as it is.  `Quoted.read` takes all forms.  It refuses a surrogate that is not
half of a pair, unless the string is skipped, when code units are only counted.
-/

namespace FilterQuery.Json.Quoted

/-! ## Writing -/

/-- The code of one character inside quotes. -/
def writeChar (c : Char) : Text :=
  if c = '"' then ['\\', '"']
  else if c = '\\' then ['\\', '\\']
  else if c = '\x08' then ['\\', 'b']
  else if c = '\x0C' then ['\\', 'f']
  else if c = '\n' then ['\\', 'n']
  else if c = '\r' then ['\\', 'r']
  else if c = '\t' then ['\\', 't']
  else if c < ' ' then
    ['\\', 'u', '0', '0', Text.hexDigit 'a' (c.toNat / 16), Text.hexDigit 'a' (c.toNat % 16)]
  else [c]

/-- A text between quotes. -/
def write (text : Text) : Text :=
  '"' :: text.flatMap writeChar ++ ['"']

/-! ## Reading -/

/-- The character that a letter stands for after a backslash. -/
def escaped? (letter : Char) : Option Char :=
  if letter = '"' || letter = '\\' || letter = '/' then some letter
  else if letter = 'b' then some '\x08'
  else if letter = 'f' then some '\x0C'
  else if letter = 'n' then some '\n'
  else if letter = 'r' then some '\r'
  else if letter = 't' then some '\t'
  else none

/-- The code unit that four hexadecimal digits stand for. -/
def unit? (a b c d : Char) : Option Nat :=
  match Text.hexByte? a b, Text.hexByte? c d with
  | some high, some low => some (256 * high + low)
  | _, _ => none

/-- Whether a code unit is the first half of a surrogate pair. -/
def isHigh (unit : Nat) : Bool :=
  0xD800 ≤ unit && unit ≤ 0xDBFF

/-- Whether a code unit is the second half of a surrogate pair. -/
def isLow (unit : Nat) : Bool :=
  0xDC00 ≤ unit && unit ≤ 0xDFFF

/-- The character of a surrogate pair. -/
def pairChar (high low : Nat) : Char :=
  Char.ofNat (0x10000 + (high - 0xD800) * 0x400 + (low - 0xDC00))

/-- The fault of a code unit without four hexadecimal digits: the text has ended when fewer than
four bytes of it are left. -/
def unitFault (rest : Text) : Fault :=
  if (Utf8.encode rest).length < 4 then .ended else .malformed

/-- The fault of a text that should go on with the second half of a surrogate pair. -/
def pairFault : Text → Fault
  | [] => .ended
  | ['\\'] => .ended
  | '\\' :: 'u' :: rest => unitFault rest
  | _ => .malformed

/-- Puts a character in front of a string that has been read. -/
def push (c : Char) : Except Fault (Text × Text) → Except Fault (Text × Text)
  | .ok (text, rest) => .ok (c :: text, rest)
  | .error fault => .error fault

/-- Reads a string from behind its opening quote to behind its closing one. -/
def read (use : Use) : Text → Except Fault (Text × Text)
  | [] => .error .ended
  | '"' :: rest => .ok ([], rest)
  | '\\' :: 'u' :: a :: b :: c :: d :: rest =>
    match unit? a b c d with
    | none => .error .malformed
    | some unit =>
      if use = .skipped then
        push (Char.ofNat unit) (read use rest)
      else if isLow unit then
        .error .malformed
      else if isHigh unit then
        match rest with
        | '\\' :: 'u' :: e :: f :: g :: h :: rest =>
          match unit? e f g h with
          | none => .error .malformed
          | some low =>
            if isLow low then push (pairChar unit low) (read use rest) else .error .malformed
        | rest => .error (pairFault rest)
      else
        push (Char.ofNat unit) (read use rest)
  | '\\' :: 'u' :: rest => .error (unitFault rest)
  | '\\' :: letter :: rest =>
    match escaped? letter with
    | some c => push c (read use rest)
    | none => .error .malformed
  | ['\\'] => .error .ended
  | c :: rest => if c < ' ' then .error .malformed else push c (read use rest)

end FilterQuery.Json.Quoted
