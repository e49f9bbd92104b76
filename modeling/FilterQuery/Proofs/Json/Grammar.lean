import FilterQuery.Json.Reader

/-!
# The grammar of JSON

A value can be written in many ways: with white space between the tokens, with characters of a
string escaped that need not be, with a number in this form or that.  The grammar says which texts
stand for a value, and neither the writer nor the reader has a part in it.  It goes by the value, as
the writer does, and leaves open what the writer decides.

Members of an object are all kept here, in their order and with keys that appear again.  What the
reader makes of such a key is another matter, and is said by `Json.merged`.

As with the reader, a value may be wanted or only passed over.  A text that is passed over need not
be a value that can be had: its numbers may be too large, and its surrogates may be without a
partner.

* `Quoted.Spells`: the codes of a text between quotes.
* `Numeral.Spells`: the texts of a number.
* `Json.Spells`: the texts of a value.
* `Listed`, `Enclosed`: what stands between two brackets, whatever the items are.
-/

namespace FilterQuery.Json

/-! ## White space -/

/-- A text of white space only. -/
def IsSpacing (text : Text) : Prop :=
  ∀ c ∈ text, isSpace c = true

/-- A text of a certain kind with white space around it. -/
def Padded (kind : Text → Prop) (text : Text) : Prop :=
  ∃ front core back, IsSpacing front ∧ kind core ∧ IsSpacing back ∧ text = front ++ core ++ back

theorem isSpacing_nil : IsSpacing [] := by
  simp [IsSpacing]

theorem Padded.of_kind {kind : Text → Prop} {text : Text} (h : kind text) : Padded kind text :=
  ⟨[], text, [], isSpacing_nil, h, isSpacing_nil, by simp⟩

theorem Padded.mono {kind kind' : Text → Prop} {text : Text} (h : Padded kind text)
    (hkind : ∀ core, kind core → kind' core) : Padded kind' text := by
  obtain ⟨front, core, back, hf, hcore, hb, rfl⟩ := h
  exact ⟨front, core, back, hf, hkind core hcore, hb, rfl⟩

/-! ## Strings -/

/-- The code inside quotes stands for a text. -/
inductive Quoted.Spells (use : Use) : Text → Text → Prop
  | nil : Spells use [] []
  /-- Any character but a quote, a backslash and the control characters is its own code. -/
  | plain {c : Char} {text code : Text} (hq : c ≠ '"') (hb : c ≠ '\\') (hc : ' ' ≤ c)
      (h : Spells use text code) : Spells use (c :: text) (c :: code)
  /-- Some characters have a letter. -/
  | letter {letter c : Char} {text code : Text} (hl : escaped? letter = some c)
      (h : Spells use text code) : Spells use (c :: text) ('\\' :: letter :: code)
  /-- A code unit that is no surrogate is a character.  A string that is passed over may have any
  code units. -/
  | unit {a b c d : Char} {unit : Nat} {text code : Text} (hu : unit? a b c d = some unit)
      (hs : use = .skipped ∨ isHigh unit = false ∧ isLow unit = false)
      (h : Spells use text code) :
      Spells use (Char.ofNat unit :: text) ('\\' :: 'u' :: a :: b :: c :: d :: code)
  /-- Two surrogates are a character. -/
  | pair {a₁ b₁ c₁ d₁ a₂ b₂ c₂ d₂ : Char} {high low : Nat} {text code : Text} (hk : use = .kept)
      (hu : unit? a₁ b₁ c₁ d₁ = some high) (hh : isHigh high = true)
      (hu' : unit? a₂ b₂ c₂ d₂ = some low) (hl : isLow low = true) (h : Spells use text code) :
      Spells use (pairChar high low :: text)
        ('\\' :: 'u' :: a₁ :: b₁ :: c₁ :: d₁ :: '\\' :: 'u' :: a₂ :: b₂ :: c₂ :: d₂ :: code)

/-- A code between quotes stands for a text. -/
def SpellsString (use : Use) (text quoted : Text) : Prop :=
  ∃ code, Quoted.Spells use text code ∧ quoted = '"' :: code ++ ['"']

/-! ## Numbers -/

namespace Numeral

/-- One or more digits. -/
def IsDigits (text : Text) : Prop :=
  text ≠ [] ∧ ∀ c ∈ text, c.isDigit = true

/-- The digits before the point.  A zero stands alone. -/
def IsWhole (text : Text) : Prop :=
  IsDigits text ∧ (text.head? = some '0' → text = ['0'])

/-- The point and the digits after it, or nothing. -/
inductive SpellsFraction : Option Text → Text → Prop
  | none : SpellsFraction none []
  | some {digits : Text} (h : IsDigits digits) : SpellsFraction (some digits) ('.' :: digits)

/-- The exponent with its letter, or nothing. -/
inductive SpellsExponent : Option Int → Text → Prop
  | none : SpellsExponent none []
  | unsigned {letter : Char} {digits : Text} (hl : letter = 'e' ∨ letter = 'E')
      (h : IsDigits digits) : SpellsExponent (some (Text.digitsValue digits)) (letter :: digits)
  | plus {letter : Char} {digits : Text} (hl : letter = 'e' ∨ letter = 'E')
      (h : IsDigits digits) :
      SpellsExponent (some (Text.digitsValue digits)) (letter :: '+' :: digits)
  | minus {letter : Char} {digits : Text} (hl : letter = 'e' ∨ letter = 'E')
      (h : IsDigits digits) :
      SpellsExponent (some (-Text.digitsValue digits)) (letter :: '-' :: digits)

/-- The text of a number without its sign. -/
def SpellsUnsigned (numeral : Numeral) (text : Text) : Prop :=
  ∃ fraction exponent, IsWhole numeral.whole ∧ SpellsFraction numeral.fraction fraction ∧
    SpellsExponent numeral.exponent exponent ∧ text = numeral.whole ++ (fraction ++ exponent)

/-- The text of a number. -/
def Spells (numeral : Numeral) (text : Text) : Prop :=
  ∃ unsigned, SpellsUnsigned numeral unsigned ∧
    text = if numeral.negative then '-' :: unsigned else unsigned

end Numeral

/-! ## Values -/

/-- Items with commas between them, or nothing but white space. -/
def Listed {α : Type} (spells : α → Text → Prop) : List α → Text → Prop
  | [], text => IsSpacing text
  | [item], text => spells item text
  | item :: next :: others, text =>
    ∃ first rest, spells item first ∧ Listed spells (next :: others) rest ∧
      text = first ++ ',' :: rest

/-- Items between two brackets. -/
def Enclosed {α : Type} (opening closing : Char) (spells : α → Text → Prop) (items : List α)
    (text : Text) : Prop :=
  ∃ inner, Listed spells items inner ∧ text = opening :: inner ++ [closing]

theorem Listed.mono {α : Type} {spells spells' : α → Text → Prop} {items : List α} {text : Text}
    (h : Listed spells items text) (hitem : ∀ item part, spells item part → spells' item part) :
    Listed spells' items text := by
  induction items generalizing text with
  | nil => exact h
  | cons item others ih =>
    cases others with
    | nil => exact hitem item text h
    | cons next more =>
      obtain ⟨first, rest, hfirst, hrest, rfl⟩ := h
      exact ⟨first, rest, hitem item first hfirst, ih hrest, rfl⟩

theorem listed_map {α β : Type} {spells : β → Text → Prop} (f : α → β) {items : List α}
    {text : Text} :
    Listed spells (items.map f) text ↔ Listed (fun item => spells (f item)) items text := by
  induction items generalizing text with
  | nil => rfl
  | cons item others ih =>
    cases others with
    | nil => rfl
    | cons next more => exact exists_congr fun first => exists_congr fun rest => by rw [← ih]; rfl

/-- The key of a member, a colon and what stands for its value. -/
def IsMember (use : Use) (key : Text) (value : Text → Prop) (text : Text) : Prop :=
  ∃ keyText valueText, Padded (SpellsString use key) keyText ∧ Padded value valueText ∧
    text = keyText ++ ':' :: valueText

mutual

/-- The text stands for a value. -/
def Spells (use : Use) : Json → Text → Prop
  | .null, text => text = "null".toList
  | .bool true, text => text = "true".toList
  | .bool false, text => text = "false".toList
  | .number value, text => ∃ numeral, Numeral.Spells numeral text ∧ numberOf use numeral = .ok value
  | .string value, text => SpellsString use value text
  | .array items, text => ∃ inner, SpellsItems use items inner ∧ text = '[' :: inner ++ [']']
  | .object members, text =>
    ∃ inner, SpellsMembers use members inner ∧ text = '\x7b' :: inner ++ ['\x7d']

/-- The text stands for the items of an array. -/
def SpellsItems (use : Use) : List Json → Text → Prop
  | [], text => IsSpacing text
  | [item], text => Padded (Spells use item) text
  | item :: next :: others, text =>
    ∃ first rest, Padded (Spells use item) first ∧ SpellsItems use (next :: others) rest ∧
      text = first ++ ',' :: rest

/-- The text stands for the members of an object. -/
def SpellsMembers (use : Use) : List (Text × Json) → Text → Prop
  | [], text => IsSpacing text
  | [(key, value)], text => IsMember use key (Spells use value) text
  | (key, value) :: next :: others, text =>
    ∃ first rest, IsMember use key (Spells use value) first ∧
      SpellsMembers use (next :: others) rest ∧ text = first ++ ',' :: rest

end

/-- The text can be passed over as a value. -/
def IsWellFormed (text : Text) : Prop :=
  ∃ value, Spells .skipped value text

theorem exists_padded_of_isWellFormed {text : Text} (h : Padded IsWellFormed text) :
    ∃ value, Padded (Spells .skipped value) text := by
  obtain ⟨front, core, back, hf, ⟨value, hvalue⟩, hb, rfl⟩ := h
  exact ⟨value, front, core, back, hf, hvalue, hb, rfl⟩

/-- The text stands for a member of an object. -/
def SpellsMember (use : Use) (member : Text × Json) (text : Text) : Prop :=
  IsMember use member.1 (Spells use member.2) text

theorem spellsItems_iff_listed {use : Use} {items : List Json} {text : Text} :
    SpellsItems use items text ↔ Listed (fun item => Padded (Spells use item)) items text := by
  induction items generalizing text with
  | nil => rfl
  | cons item others ih =>
    cases others with
    | nil => rfl
    | cons next more => simp only [SpellsItems, Listed, ih]

theorem spells_array_iff_enclosed {use : Use} {items : List Json} {text : Text} :
    Spells use (.array items) text ↔
      Enclosed '[' ']' (fun item => Padded (Spells use item)) items text :=
  exists_congr fun _ => and_congr_left' spellsItems_iff_listed

theorem spellsMembers_iff_listed {use : Use} {members : List (Text × Json)} {text : Text} :
    SpellsMembers use members text ↔ Listed (SpellsMember use) members text := by
  induction members generalizing text with
  | nil => rfl
  | cons member others ih =>
    cases others with
    | nil => rfl
    | cons next more => simp only [SpellsMembers, Listed, ih, SpellsMember]

theorem spells_object_iff_enclosed {use : Use} {members : List (Text × Json)} {text : Text} :
    Spells use (.object members) text ↔ Enclosed '\x7b' '\x7d' (SpellsMember use) members text :=
  exists_congr fun _ => and_congr_left' spellsMembers_iff_listed

end FilterQuery.Json
