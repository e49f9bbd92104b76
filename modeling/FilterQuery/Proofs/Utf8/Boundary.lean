import FilterQuery.Proofs.Utf8.RoundTrip

/-!
# Where a character begins

The first byte of a character is never one that can stand inside a character.  So a reader that is
still inside one when the next begins closes it as damaged right there and reads the next one from
its first byte on: nothing that stands in front of a character can take a byte of it away.

What a byte can do is said once, by `start_cases` and `step_cases`.  A byte either ends with the
reader inside a character, or writes something; and what is written or pending grows by one
character at most.

* `State.Sound`: the states in which the reader can be.
* `step_cases`: what one byte does.
* `trace_fst_ne_nil`: bytes after which nothing is pending have written something.
* `length_run_cons_le`: one byte is worth one character at most.
* `run_utf8EncodeChar_append`: a character is read in whatever state the reader meets it.
-/

namespace FilterQuery.Utf8

variable {state : State} {byte : Nat}

/-- Where the reader can be: between two characters, or waiting for a byte that no character starts
with. -/
def State.Sound : State → Prop
  | .idle => True
  | .inside _ low high _ => 0x80 ≤ low ∧ high ≤ 0xBF

theorem State.sound_idle : State.idle.Sound := trivial

/-! ## What a byte does -/

/-- After its first byte the reader is inside a character. -/
theorem lead?_eq_inside (h : lead? byte = some state) :
    ∃ more low high bits, state = .inside more low high bits ∧ 0x80 ≤ low ∧ high ≤ 0xBF := by
  unfold lead? at h
  repeat' split at h
  all_goals cases h
  all_goals exact ⟨_, _, _, _, rfl, by decide, by decide⟩

/-- Between two characters a byte is one by itself, or damaged, or the first of several. -/
theorem start_cases (byte : Nat) :
    (byte < 0x80 ∧ start byte = ([Char.ofNat byte], .idle)) ∨
    start byte = ([replacement], .idle) ∨
    ∃ more low high bits, start byte = ([], .inside more low high bits) ∧
      lead? byte = some (.inside more low high bits) ∧ 0x80 ≤ low ∧ high ≤ 0xBF := by
  unfold start
  split
  case isTrue h => exact Or.inl ⟨h, rfl⟩
  case isFalse =>
    cases hlead : lead? byte with
    | none => exact Or.inr (Or.inl rfl)
    | some state =>
      obtain ⟨more, low, high, bits, rfl, hlow, hhigh⟩ := lead?_eq_inside hlead
      exact Or.inr (Or.inr ⟨more, low, high, bits, rfl, rfl, hlow, hhigh⟩)

/-- **What one byte does.**  It closes what is pending and is read as a first byte, or it is the
last byte of a character, or one in the middle. -/
theorem step_cases (state : State) (byte : Nat) :
    step state byte = (finish state ++ (start byte).1, (start byte).2) ∨
    (∃ low high bits c, state = .inside 0 low high bits ∧ (low ≤ byte ∧ byte ≤ high) ∧
      step state byte = ([c], .idle)) ∨
    ∃ more low high bits bits', state = .inside (more + 1) low high bits ∧
      (low ≤ byte ∧ byte ≤ high) ∧ step state byte = ([], .inside more 0x80 0xBF bits') := by
  cases state with
  | idle => exact Or.inl rfl
  | inside more low high bits =>
    by_cases hin : low ≤ byte ∧ byte ≤ high
    · cases more with
      | zero => exact Or.inr (Or.inl ⟨low, high, bits, _, rfl, hin, by rw [step, if_pos hin]⟩)
      | succ more =>
        exact Or.inr (Or.inr ⟨more, low, high, bits, _, rfl, hin, by rw [step, if_pos hin]⟩)
    · exact Or.inl (by rw [step, if_neg hin]; rfl)

/-- Inside a character, a byte that does not go on with it closes it. -/
theorem step_inside_of_not {more low high bits : Nat} (h : ¬(low ≤ byte ∧ byte ≤ high)) :
    step (.inside more low high bits) byte = (replacement :: (start byte).1, (start byte).2) := by
  rw [step, if_neg h]

theorem start_sound (byte : Nat) : (start byte).2.Sound := by
  rcases start_cases byte with ⟨-, hstart⟩ | hstart | ⟨more, low, high, bits, hstart, -, hsound⟩
  · rw [hstart]
    trivial
  · rw [hstart]
    trivial
  · rw [hstart]
    exact hsound

theorem step_sound (state : State) (byte : Nat) : (step state byte).2.Sound := by
  rcases step_cases state byte with hstep | ⟨low, high, bits, c, -, -, hstep⟩ |
    ⟨more, low, high, bits, bits', -, -, hstep⟩
  · rw [hstep]
    exact start_sound byte
  · rw [hstep]
    trivial
  · rw [hstep]
    exact ⟨by decide, by decide⟩

/-- A byte after which the reader is between two characters has written something. -/
theorem step_fst_ne_nil (h : (step state byte).2 = .idle) : (step state byte).1 ≠ [] := by
  rcases step_cases state byte with hstep | ⟨low, high, bits, c, -, -, hstep⟩ |
    ⟨more, low, high, bits, bits', -, -, hstep⟩
  · rw [hstep] at h ⊢
    rcases start_cases byte with ⟨-, hstart⟩ | hstart | ⟨more, low, high, bits, hstart, -⟩
    · simp [hstart]
    · simp [hstart]
    · rw [hstart] at h
      cases h
  · rw [hstep]
    exact List.cons_ne_nil c []
  · rw [hstep] at h
    cases h

/-- What is written or pending grows by one character at most. -/
theorem length_step_le (state : State) (byte : Nat) :
    (step state byte).1.length + (finish (step state byte).2).length ≤
      (finish state).length + 1 := by
  rcases step_cases state byte with hstep | ⟨low, high, bits, c, rfl, -, hstep⟩ |
    ⟨more, low, high, bits, bits', rfl, -, hstep⟩
  · rw [hstep, List.length_append]
    rcases start_cases byte with ⟨-, hstart⟩ | hstart | ⟨more, low, high, bits, hstart, -⟩
    · simp [hstart, finish]
    · simp [hstart, finish]
    · simp [hstart, finish]
  · simp [hstep, finish]
  · simp [hstep, finish]

/-! ## What bytes do -/

theorem run_eq_trace (state : State) (bytes : List UInt8) :
    run state bytes = (trace state bytes).1 ++ finish (trace state bytes).2 := by
  have h := run_append state bytes []
  rwa [List.append_nil] at h

theorem trace_append (state : State) (front back : List UInt8) :
    trace state (front ++ back) =
      ((trace state front).1 ++ (trace (trace state front).2 back).1,
        (trace (trace state front).2 back).2) := by
  induction front generalizing state with
  | nil => rfl
  | cons byte rest ih => simp [trace, ih]

theorem trace_sound (h : state.Sound) (bytes : List UInt8) : (trace state bytes).2.Sound := by
  induction bytes generalizing state with
  | nil => exact h
  | cons byte rest ih => exact ih (step_sound state byte.toNat)

/-- Bytes after which the reader is between two characters have written something. -/
theorem trace_fst_ne_nil {bytes : List UInt8} (hne : bytes ≠ [])
    (h : (trace state bytes).2 = .idle) : (trace state bytes).1 ≠ [] := by
  induction bytes generalizing state with
  | nil => exact absurd rfl hne
  | cons byte rest ih =>
    rw [trace]
    by_cases hrest : rest = []
    · subst hrest
      exact List.append_ne_nil_of_left_ne_nil (step_fst_ne_nil h) _
    · exact List.append_ne_nil_of_right_ne_nil _ (ih hrest h)

/-- One byte is worth one character at most. -/
theorem length_run_cons_le {byte : UInt8} {rest : List UInt8} {n : Nat}
    (h : (run (step state byte.toNat).2 rest).length ≤
      (finish (step state byte.toNat).2).length + n) :
    (run state (byte :: rest)).length ≤ (finish state).length + (n + 1) := by
  have hstep := length_step_le state byte.toNat
  rw [run, List.length_append]
  omega

/-! ## Characters -/

/-- The first byte of a character is none that can stand inside one. -/
theorem exists_first_byte (c : Char) :
    ∃ first more, String.utf8EncodeChar c = first :: more ∧
      ¬(0x80 ≤ first.toNat ∧ first.toNat ≤ 0xBF) := by
  have hvalid : c.val.toNat < 0xD800 ∨ 0xDFFF < c.val.toNat ∧ c.val.toNat < 0x110000 := c.valid
  rw [String.utf8EncodeChar]
  generalize c.val.toNat = v at hvalid
  -- one case for each number of bytes
  split
  · exact ⟨_, _, rfl, by rw [UInt8.toNat_ofNat']; omega⟩
  split
  · exact ⟨_, _, rfl, by rw [toNat_ofNat_add (by omega)]; omega⟩
  split
  · exact ⟨_, _, rfl, by rw [toNat_ofNat_add (by omega)]; omega⟩
  · exact ⟨_, _, rfl, by rw [toNat_ofNat_add (by omega)]; omega⟩

/-- **A character is read in whatever state the reader meets it.**  What is pending there is closed
as damaged, and after the character the reader is between two characters. -/
theorem run_utf8EncodeChar_append (h : state.Sound) (c : Char) (rest : List UInt8) :
    run state (String.utf8EncodeChar c ++ rest) = finish state ++ c :: decode rest := by
  have hidle : run .idle (String.utf8EncodeChar c ++ rest) = c :: decode rest := by
    rw [run_append, trace_utf8EncodeChar]
    rfl
  cases state with
  | idle => exact hidle
  | inside more low high bits =>
    obtain ⟨first, others, hchar, hfirst⟩ := exists_first_byte c
    have hsound : 0x80 ≤ low ∧ high ≤ 0xBF := h
    have hout : ¬(low ≤ first.toNat ∧ first.toNat ≤ high) := by omega
    rw [hchar, List.cons_append, run, step] at hidle
    rw [hchar, List.cons_append, run, step_inside_of_not hout, List.cons_append, hidle]
    rfl

end FilterQuery.Utf8
