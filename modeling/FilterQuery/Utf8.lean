import FilterQuery.Text.Basic

/-!
# Reading UTF-8 that may be damaged

A percent-encoded value holds bytes, and nothing makes them well-formed UTF-8.  Reading never
fails: what is not the start of a character is read as the replacement character `U+FFFD`, once
for each stretch that could still have become a character when it broke off.

The reader is a machine that takes one byte at a time.  Between characters it is `idle`; inside
one it knows how many bytes are still owed, the range in which the next one must lie, and the bits
collected so far.  The ranges rule out overlong forms, surrogates and code points above
`U+10FFFF`, so a character that has been completed is always a proper one.

* `Utf8.encode`: the bytes of a text.
* `Utf8.decode`: the text of any bytes at all.
* `run_append`: a run over two stretches of bytes is a run over the first, then one over the second.
-/

namespace FilterQuery.Utf8

/-- The bytes of a text. -/
def encode (text : Text) : List UInt8 :=
  text.flatMap String.utf8EncodeChar

/-- The character that stands for damaged bytes. -/
def replacement : Char := '\uFFFD'

/-- Where the reader stands between two bytes. -/
inductive State where
  /-- Between two characters. -/
  | idle
  /-- Inside a character: `more` bytes are owed after the next one, which must lie between `low`
  and `high`; `bits` is what the bytes so far stand for. -/
  | inside (more low high bits : Nat)
  deriving DecidableEq, Repr

/-- The state after the first byte of a character, or none where no character starts with it. -/
def lead? (byte : Nat) : Option State :=
  if 0xC2 ≤ byte ∧ byte ≤ 0xDF then some (.inside 0 0x80 0xBF (byte - 0xC0))
  else if byte = 0xE0 then some (.inside 1 0xA0 0xBF 0)
  else if 0xE1 ≤ byte ∧ byte ≤ 0xEC then some (.inside 1 0x80 0xBF (byte - 0xE0))
  else if byte = 0xED then some (.inside 1 0x80 0x9F (byte - 0xE0))
  else if 0xEE ≤ byte ∧ byte ≤ 0xEF then some (.inside 1 0x80 0xBF (byte - 0xE0))
  else if byte = 0xF0 then some (.inside 2 0x90 0xBF 0)
  else if 0xF1 ≤ byte ∧ byte ≤ 0xF3 then some (.inside 2 0x80 0xBF (byte - 0xF0))
  else if byte = 0xF4 then some (.inside 2 0x80 0x8F 4)
  else none

/-- Reads a byte between two characters: what is written, and the state after it. -/
def start (byte : Nat) : Text × State :=
  if byte < 0x80 then
    ([Char.ofNat byte], .idle)
  else
    match lead? byte with
    | some state => ([], state)
    | none => ([replacement], .idle)

/-- Reads one byte: what is written, and the state after it.  A byte that cannot continue the
character it meets closes it as damaged and is then read as a first byte. -/
def step : State → Nat → Text × State
  | .idle, byte => start byte
  | .inside more low high bits, byte =>
    if low ≤ byte ∧ byte ≤ high then
      let bits := bits * 64 + (byte - 0x80)
      match more with
      | 0 => ([Char.ofNat bits], .idle)
      | more + 1 => ([], .inside more 0x80 0xBF bits)
    else
      (replacement :: (start byte).1, (start byte).2)

/-- What the end of the bytes writes: a character that is not complete is damaged. -/
def finish : State → Text
  | .idle => []
  | .inside .. => [replacement]

/-- Reads bytes from a state up to their end. -/
def run (state : State) : List UInt8 → Text
  | [] => finish state
  | byte :: rest => (step state byte.toNat).1 ++ run (step state byte.toNat).2 rest

/-- The text of bytes that need not be well-formed. -/
def decode (bytes : List UInt8) : Text :=
  run .idle bytes

/-! ## Runs over two stretches of bytes -/

/-- What a run over a stretch of bytes writes before the next byte is known, and its state. -/
def trace (state : State) : List UInt8 → Text × State
  | [] => ([], state)
  | byte :: rest =>
    let next := step state byte.toNat
    (next.1 ++ (trace next.2 rest).1, (trace next.2 rest).2)

theorem run_append (state : State) (front back : List UInt8) :
    run state (front ++ back) = (trace state front).1 ++ run (trace state front).2 back := by
  induction front generalizing state with
  | nil => rfl
  | cons byte rest ih => simp [run, trace, ih]

@[simp] theorem encode_cons (c : Char) (rest : Text) :
    encode (c :: rest) = String.utf8EncodeChar c ++ encode rest := by
  simp [encode]

@[simp] theorem encode_append (front back : Text) :
    encode (front ++ back) = encode front ++ encode back := by
  simp [encode]

end FilterQuery.Utf8
