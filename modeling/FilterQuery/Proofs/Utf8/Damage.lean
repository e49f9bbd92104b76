import FilterQuery.Proofs.Utf8.Boundary
import FilterQuery.Text.CodeRange
import Mathlib.Data.List.Induction

/-!
# How damaged bytes are read

Where no character begins, the reader has to say how far the damage reaches, since it writes one
replacement character for each damaged stretch.  The rule is that of the maximal subpart: a stretch
is one byte, or as many bytes as could still have become a character.  It is stated here over the
bytes of characters, without the reader and without its table of first bytes, and then the two are
held against each other.  The table has to be right in both directions: bytes that it lets through
have to be completable, and the bytes of a character may not be stopped.

* `BreaksOff`, `IsDamaged`: bytes that could still have become a character, and damaged stretches.
* `Reads`: what bytes are read as.
* `exists_char_of_lead?`: what the table of first bytes lets through can be completed.
* `reads_iff`: the reader keeps to the rule, and the rule leaves no choice.
-/

namespace FilterQuery.Utf8

variable {stretch rest bytes : List UInt8} {text : Text}

/-- Some bytes, but not all, of a character. -/
def BreaksOff (stretch : List UInt8) : Prop :=
  ∃ c more, more ≠ [] ∧ String.utf8EncodeChar c = stretch ++ more

/-- The damaged stretch at the front of bytes with which no character begins: it is one byte, or
else some bytes of a character, and one byte more would not be. -/
structure IsDamaged (stretch rest : List UInt8) : Prop where
  notChar : ∀ c, ¬ String.utf8EncodeChar c <+: stretch ++ rest
  extent : (∃ byte, stretch = [byte]) ∨ stretch ≠ [] ∧ BreaksOff stretch
  maximal : ∀ next ∈ rest.head?, ¬ BreaksOff (stretch ++ [next])

/-- What bytes are read as: the bytes of a character as the character, and a damaged stretch as one
replacement character. -/
inductive Reads : List UInt8 → Text → Prop
  | nil : Reads [] []
  | char {rest : List UInt8} {text : Text} (c : Char) (hr : Reads rest text) :
      Reads (String.utf8EncodeChar c ++ rest) (c :: text)
  | damaged {stretch rest : List UInt8} {text : Text} (hd : IsDamaged stretch rest)
      (hr : Reads rest text) : Reads (stretch ++ rest) (replacement :: text)

/-! ## What the table of first bytes lets through -/

theorem val_toNat_ofNat {n : Nat} (h : n.isValidChar) : (Char.ofNat n).val.toNat = n :=
  Text.toNat_ofNat h

theorem ofNat_eq_of_toNat_eq {byte : UInt8} {n : Nat} (h : byte.toNat = n) :
    UInt8.ofNat n = byte := by
  rw [← h, UInt8.ofNat_toNat]

theorem exists_char_one {b₀ : UInt8} (h₀ : b₀.toNat < 0x80) :
    ∃ c, String.utf8EncodeChar c = [b₀] := by
  refine ⟨Char.ofNat b₀.toNat, ?_⟩
  rw [String.utf8EncodeChar, val_toNat_ofNat (Or.inl (by omega)), if_pos (by omega),
    UInt8.ofNat_toNat]

theorem exists_char_two {b₀ b₁ : UInt8} (h₀ : 0xC2 ≤ b₀.toNat ∧ b₀.toNat ≤ 0xDF)
    (h₁ : 0x80 ≤ b₁.toNat ∧ b₁.toNat ≤ 0xBF) : ∃ c, String.utf8EncodeChar c = [b₀, b₁] := by
  obtain ⟨v, hv⟩ : ∃ v, v = (b₀.toNat - 0xC0) * 64 + (b₁.toNat - 0x80) := ⟨_, rfl⟩
  have hvalid : v.isValidChar := Or.inl (by omega)
  have e₀ : UInt8.ofNat (v / 64 % 32 + 0xC0) = b₀ := ofNat_eq_of_toNat_eq (by omega)
  have e₁ : UInt8.ofNat (v % 64 + 0x80) = b₁ := ofNat_eq_of_toNat_eq (by omega)
  refine ⟨Char.ofNat v, ?_⟩
  rw [String.utf8EncodeChar, val_toNat_ofNat hvalid, if_neg (by omega), if_pos (by omega), e₀, e₁]

theorem exists_char_three {b₀ b₁ b₂ : UInt8} (h₀ : 0xE0 ≤ b₀.toNat ∧ b₀.toNat ≤ 0xEF)
    (h₁ : 0x80 ≤ b₁.toNat ∧ b₁.toNat ≤ 0xBF) (h₂ : 0x80 ≤ b₂.toNat ∧ b₂.toNat ≤ 0xBF)
    (hlong : b₀.toNat = 0xE0 → 0xA0 ≤ b₁.toNat) (hgap : b₀.toNat = 0xED → b₁.toNat ≤ 0x9F) :
    ∃ c, String.utf8EncodeChar c = [b₀, b₁, b₂] := by
  obtain ⟨v, hv⟩ : ∃ v, v =
      (b₀.toNat - 0xE0) * 4096 + (b₁.toNat - 0x80) * 64 + (b₂.toNat - 0x80) := ⟨_, rfl⟩
  have hvalid : v.isValidChar := by
    unfold Nat.isValidChar
    omega
  have e₀ : UInt8.ofNat (v / 4096 % 16 + 0xE0) = b₀ := ofNat_eq_of_toNat_eq (by omega)
  have e₁ : UInt8.ofNat (v / 64 % 64 + 0x80) = b₁ := ofNat_eq_of_toNat_eq (by omega)
  have e₂ : UInt8.ofNat (v % 64 + 0x80) = b₂ := ofNat_eq_of_toNat_eq (by omega)
  refine ⟨Char.ofNat v, ?_⟩
  rw [String.utf8EncodeChar, val_toNat_ofNat hvalid, if_neg (by omega), if_neg (by omega),
    if_pos (by omega), e₀, e₁, e₂]

theorem exists_char_four {b₀ b₁ b₂ b₃ : UInt8} (h₀ : 0xF0 ≤ b₀.toNat ∧ b₀.toNat ≤ 0xF4)
    (h₁ : 0x80 ≤ b₁.toNat ∧ b₁.toNat ≤ 0xBF) (h₂ : 0x80 ≤ b₂.toNat ∧ b₂.toNat ≤ 0xBF)
    (h₃ : 0x80 ≤ b₃.toNat ∧ b₃.toNat ≤ 0xBF) (hlong : b₀.toNat = 0xF0 → 0x90 ≤ b₁.toNat)
    (hend : b₀.toNat = 0xF4 → b₁.toNat ≤ 0x8F) :
    ∃ c, String.utf8EncodeChar c = [b₀, b₁, b₂, b₃] := by
  obtain ⟨v, hv⟩ : ∃ v, v =
      (b₀.toNat - 0xF0) * 262144 + (b₁.toNat - 0x80) * 4096 + (b₂.toNat - 0x80) * 64 +
        (b₃.toNat - 0x80) := ⟨_, rfl⟩
  have hvalid : v.isValidChar := by
    unfold Nat.isValidChar
    omega
  have e₀ : UInt8.ofNat (v / 262144 % 8 + 0xF0) = b₀ := ofNat_eq_of_toNat_eq (by omega)
  have e₁ : UInt8.ofNat (v / 4096 % 64 + 0x80) = b₁ := ofNat_eq_of_toNat_eq (by omega)
  have e₂ : UInt8.ofNat (v / 64 % 64 + 0x80) = b₂ := ofNat_eq_of_toNat_eq (by omega)
  have e₃ : UInt8.ofNat (v % 64 + 0x80) = b₃ := ofNat_eq_of_toNat_eq (by omega)
  refine ⟨Char.ofNat v, ?_⟩
  rw [String.utf8EncodeChar, val_toNat_ofNat hvalid, if_neg (by omega), if_neg (by omega),
    if_neg (by omega), e₀, e₁, e₂, e₃]

/-- How many bytes a character has, and which second byte it can have, by its first byte. -/
theorem lead?_length {byte more low high bits : Nat}
    (h : lead? byte = some (.inside more low high bits)) :
    (more = 0 ∧ 0xC2 ≤ byte ∧ byte ≤ 0xDF) ∨
    (more = 1 ∧ (0xE0 ≤ byte ∧ byte ≤ 0xEF) ∧ (byte = 0xE0 → 0xA0 ≤ low) ∧
      (byte = 0xED → high ≤ 0x9F)) ∨
    (more = 2 ∧ (0xF0 ≤ byte ∧ byte ≤ 0xF4) ∧ (byte = 0xF0 → 0x90 ≤ low) ∧
      (byte = 0xF4 → high ≤ 0x8F)) := by
  unfold lead? at h
  repeat' split at h
  all_goals cases h
  all_goals omega

/-- **What the table of first bytes lets through can be completed.** -/
theorem exists_char_of_lead? {byte next : UInt8} {more low high bits : Nat} {tail : List UInt8}
    (h : lead? byte.toNat = some (.inside more low high bits))
    (hnext : low ≤ next.toNat ∧ next.toNat ≤ high) (hlength : tail.length = more)
    (htail : ∀ b ∈ tail, 0x80 ≤ b.toNat ∧ b.toNat ≤ 0xBF) :
    ∃ c, String.utf8EncodeChar c = byte :: next :: tail := by
  obtain ⟨_, _, _, _, heq, hlow, hhigh⟩ := lead?_eq_inside h
  cases heq
  rcases lead?_length h with ⟨rfl, hbyte⟩ | ⟨rfl, hbyte, hfirst, hlast⟩ |
    ⟨rfl, hbyte, hfirst, hlast⟩
  · obtain rfl := List.eq_nil_of_length_eq_zero hlength
    exact exists_char_two hbyte (by omega)
  · obtain ⟨b₂, rfl⟩ := List.length_eq_one_iff.mp hlength
    have h₂ := htail b₂ (by simp)
    exact exists_char_three hbyte (by omega) h₂ (by omega) (by omega)
  · obtain ⟨b₂, tail, rfl⟩ := List.exists_cons_of_length_eq_add_one hlength
    obtain ⟨b₃, rfl⟩ := List.length_eq_one_iff.mp (Nat.succ.inj hlength)
    have h₂ := htail b₂ (by simp)
    have h₃ := htail b₃ (by simp)
    exact exists_char_four hbyte (by omega) h₂ h₃ (by omega) (by omega)

/-! ## Inside a character -/

/-- Some bytes of a character, but not all, leave the reader inside it with nothing written. -/
theorem trace_of_breaksOff (hne : stretch ≠ []) (h : BreaksOff stretch) :
    ∃ more low high bits, trace .idle stretch = ([], .inside more low high bits) := by
  obtain ⟨c, back, hback, hchar⟩ := h
  have htrace := trace_utf8EncodeChar c
  rw [hchar, trace_append, Prod.mk.injEq] at htrace
  obtain ⟨hwritten, hidle⟩ := htrace
  -- the bytes that are missing write the character, so nothing was written before them
  have hlast := trace_fst_ne_nil hback hidle
  have hfirst : (trace .idle stretch).1 = [] := by
    rcases List.append_eq_singleton_iff.mp hwritten with ⟨hnil, -⟩ | ⟨-, hnil⟩
    · exact hnil
    · exact absurd hnil hlast
  cases hstate : (trace .idle stretch).2 with
  | idle => exact absurd hfirst (trace_fst_ne_nil hne hstate)
  | inside more low high bits => exact ⟨more, low, high, bits, Prod.ext hfirst hstate⟩

/-- A byte that writes nothing is the first of a character or one in the middle. -/
theorem step_silent {state : State} {byte more low high bits : Nat}
    (h : step state byte = ([], .inside more low high bits)) :
    (state = .idle ∧ lead? byte = some (.inside more low high bits)) ∨
    ∃ low' high' bits', state = .inside (more + 1) low' high' bits' ∧
      (low' ≤ byte ∧ byte ≤ high') ∧ low = 0x80 ∧ high = 0xBF := by
  rcases step_cases state byte with hstep | ⟨_, _, _, c, -, -, hstep⟩ |
    ⟨more', low', high', bits', _, rfl, hin, hstep⟩
  · rw [hstep, Prod.mk.injEq, List.append_eq_nil_iff] at h
    obtain ⟨⟨hfinish, hwritten⟩, hstate⟩ := h
    have hidle : state = .idle := by
      cases state with
      | idle => rfl
      | inside => simp [finish] at hfinish
    rcases start_cases byte with ⟨-, hstart⟩ | hstart | ⟨_, _, _, _, hstart, hlead, -⟩
    · simp [hstart] at hwritten
    · simp [hstart] at hwritten
    · rw [hstart] at hstate
      exact Or.inl ⟨hidle, hlead.trans (congrArg some hstate)⟩
  · rw [hstep] at h
    cases h
  · rw [hstep] at h
    cases h
    exact Or.inr ⟨low', high', bits', rfl, hin, rfl, rfl⟩

/-- Where the reader is inside a character with nothing written, each byte that it waits for is one
of a character that begins with these bytes. -/
theorem exists_char_of_trace {more low high bits : Nat} {next : UInt8} {tail : List UInt8}
    (h : trace .idle stretch = ([], .inside more low high bits))
    (hnext : low ≤ next.toNat ∧ next.toNat ≤ high) (hlength : tail.length = more)
    (htail : ∀ b ∈ tail, 0x80 ≤ b.toNat ∧ b.toNat ≤ 0xBF) :
    ∃ c, String.utf8EncodeChar c = stretch ++ next :: tail := by
  induction stretch using List.reverseRecOn generalizing more low high bits next tail with
  | nil => cases h
  | append_singleton front byte ih =>
    rw [trace_append, Prod.mk.injEq, List.append_eq_nil_iff] at h
    obtain ⟨⟨hfront, hwritten⟩, hstate⟩ := h
    rw [trace, trace, List.append_nil] at hwritten
    rcases step_silent (Prod.ext hwritten hstate) with ⟨hidle, hlead⟩ |
      ⟨low', high', bits', hinside, hbyte, rfl, rfl⟩
    · -- the byte is the first one
      have hnil : front = [] := by
        by_contra hne
        exact trace_fst_ne_nil hne hidle hfront
      rw [hnil]
      exact exists_char_of_lead? hlead hnext hlength htail
    · -- the byte is one in the middle, which the bytes behind it go on
      have htail' : ∀ b ∈ next :: tail, 0x80 ≤ b.toNat ∧ b.toNat ≤ 0xBF :=
        List.forall_mem_cons.mpr ⟨hnext, htail⟩
      rw [List.append_assoc, List.singleton_append]
      exact ih (Prod.ext hfront hinside) hbyte (congrArg (· + 1) hlength) htail'

/-! ## Damaged stretches -/

/-- A byte that goes on with a character is the last of its bytes, or they still break off. -/
theorem char_or_breaksOff_of_trace {more low high bits : Nat} {next : UInt8}
    (h : trace .idle stretch = ([], .inside more low high bits))
    (hnext : low ≤ next.toNat ∧ next.toNat ≤ high) :
    (∃ c, String.utf8EncodeChar c = stretch ++ [next]) ∨ BreaksOff (stretch ++ [next]) := by
  have htail : ∀ b ∈ List.replicate more (0x80 : UInt8), 0x80 ≤ b.toNat ∧ b.toNat ≤ 0xBF := by
    intro b hb
    rw [List.eq_of_mem_replicate hb]
    decide
  obtain ⟨c, hc⟩ := exists_char_of_trace h hnext List.length_replicate htail
  cases more with
  | zero => exact Or.inl ⟨c, hc⟩
  | succ more =>
    refine Or.inr ⟨c, List.replicate (more + 1) 0x80, by simp, ?_⟩
    rw [hc, List.append_assoc, List.singleton_append]

namespace IsDamaged

theorem ne_nil (h : IsDamaged stretch rest) : stretch ≠ [] := by
  rcases h.extent with ⟨byte, rfl⟩ | ⟨hne, -⟩
  · exact List.cons_ne_nil byte []
  · exact hne

/-- The reader is still inside a character at the end of a stretch: what follows closes it. -/
theorem decode_of_trace (h : IsDamaged stretch rest) {more low high bits : Nat}
    (htrace : trace .idle stretch = ([], .inside more low high bits)) :
    decode (stretch ++ rest) = replacement :: decode rest := by
  rw [decode, run_append, htrace]
  cases rest with
  | nil => rfl
  | cons next after =>
    have hout : ¬(low ≤ next.toNat ∧ next.toNat ≤ high) := by
      intro hin
      rcases char_or_breaksOff_of_trace htrace hin with ⟨c, hc⟩ | hbreaks
      · exact h.notChar c ⟨after, by simp [hc]⟩
      · exact h.maximal next rfl hbreaks
    rw [run, step_inside_of_not hout]
    rfl

/-- **A damaged stretch is read as one replacement character.** -/
theorem decode_append (h : IsDamaged stretch rest) :
    decode (stretch ++ rest) = replacement :: decode rest := by
  rcases h.extent with ⟨byte, rfl⟩ | ⟨hne, hbreaks⟩
  · rcases start_cases byte.toNat with ⟨hlt, -⟩ | hstart | ⟨more, low, high, bits, hstart, -⟩
    · obtain ⟨c, hc⟩ := exists_char_one hlt
      exact absurd ⟨rest, by rw [hc]⟩ (h.notChar c)
    · rw [List.singleton_append, decode, run, step, hstart]
      rfl
    · exact h.decode_of_trace (by rw [trace, trace, step, hstart]; rfl)
  · obtain ⟨more, low, high, bits, htrace⟩ := trace_of_breaksOff hne hbreaks
    exact h.decode_of_trace htrace

/-- Where no character begins there is a damaged stretch, and it can be found byte by byte. -/
theorem exists_of_extent (hchar : ∀ c, ¬ String.utf8EncodeChar c <+: stretch ++ rest)
    (hextent : (∃ byte, stretch = [byte]) ∨ stretch ≠ [] ∧ BreaksOff stretch) :
    ∃ stretch' rest', stretch ++ rest = stretch' ++ rest' ∧ IsDamaged stretch' rest' := by
  induction rest generalizing stretch with
  | nil => exact ⟨stretch, [], rfl, hchar, hextent, by simp⟩
  | cons next after ih =>
    by_cases hbreaks : BreaksOff (stretch ++ [next])
    · have heq : stretch ++ next :: after = (stretch ++ [next]) ++ after := by simp
      rw [heq] at hchar ⊢
      exact ih hchar (Or.inr ⟨by simp, hbreaks⟩)
    · refine ⟨stretch, next :: after, rfl, hchar, hextent, ?_⟩
      rintro _ ⟨rfl⟩
      exact hbreaks

end IsDamaged

/-! ## All bytes -/

/-- Any bytes can be read: a character or a damaged stretch is in front of them, and fewer bytes
remain. -/
theorem exists_reads (bytes : List UInt8) : ∃ text, Reads bytes text := by
  induction hlength : bytes.length using Nat.strongRecOn generalizing bytes with
  | ind n ih =>
    by_cases hchar : ∃ c, String.utf8EncodeChar c <+: bytes
    · obtain ⟨c, rest, rfl⟩ := hchar
      obtain ⟨first, others, hc, -⟩ := exists_first_byte c
      rw [hc, List.length_append, List.length_cons] at hlength
      obtain ⟨text, hreads⟩ := ih rest.length (by omega) rest rfl
      exact ⟨c :: text, .char c hreads⟩
    · rw [not_exists] at hchar
      cases bytes with
      | nil => exact ⟨[], .nil⟩
      | cons byte others =>
        rw [← List.singleton_append] at hchar hlength ⊢
        obtain ⟨stretch, rest, heq, hdamaged⟩ :=
          IsDamaged.exists_of_extent hchar (Or.inl ⟨byte, rfl⟩)
        have hpositive : 0 < stretch.length := List.length_pos_iff.mpr hdamaged.ne_nil
        rw [heq, List.length_append] at hlength
        obtain ⟨text, hreads⟩ := ih rest.length (by omega) rest rfl
        rw [heq]
        exact ⟨replacement :: text, .damaged hdamaged hreads⟩

/-- **The reader keeps to the rule of damaged bytes**, and the rule leaves no choice. -/
theorem reads_iff : Reads bytes text ↔ decode bytes = text := by
  have hsound : ∀ {bytes text}, Reads bytes text → decode bytes = text := by
    intro bytes text h
    induction h with
    | nil => rfl
    | char c hr ih =>
      rw [← ih]
      exact run_utf8EncodeChar_append State.sound_idle c _
    | damaged hd hr ih => rw [hd.decode_append, ih]
  refine ⟨hsound, ?_⟩
  rintro rfl
  obtain ⟨text, hreads⟩ := exists_reads bytes
  rwa [hsound hreads]

/-- A character that is cut off by another one, a byte that starts none, an overlong form and a
surrogate. -/
example :
    decode [0xE2, 0x82, 0x41, 0xFF, 0xC0, 0xAF, 0xED, 0xA0, 0x80] =
      "\uFFFDA\uFFFD\uFFFD\uFFFD\uFFFD\uFFFD\uFFFD".toList := by
  decide +kernel

end FilterQuery.Utf8
