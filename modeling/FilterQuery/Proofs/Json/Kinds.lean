import FilterQuery.Proofs.Json.Soundness

/-!
# Values of the wrong kind

A reader that asks for a value of one kind may find a value of another.  Then it refuses the kind,
and it never has another fault to report: whatever is a value at all can be read to its end.  So
what such a reader does with a value depends on the value alone, neither on how it is written nor on
what follows it.

Where values stand between two brackets, reading stops at the first one that is refused.  With this
the outcome of the whole is that of a fold over the values, be it a result or a fault.

* `string?`, `char?`, `strings?`: the values of the kinds that are asked for.
* `readString_refused`, `readStrings_refused`, `readChar_refused`: what is of another kind.
* `Refuses`: an item that is refused.
* `readItems_front`, `readItems_outcome`: items between two brackets, up to the first fault.
-/

namespace FilterQuery.Json

variable {text rest part : Text} {value : Json}

/-! ## Items that are refused -/

section Items

variable {σ α : Type} {close : Char} {readItem : σ → Text → Except Fault (σ × Text)}
  {step : σ → α → Except Fault σ} {spells : α → Text → Prop}

/-- A reader refuses a text for an item: it can be told from the bracket `close`, and whatever
follows it there is the same fault. -/
structure Refuses (close : Char) (readItem : σ → Text → Except Fault (σ × Text)) (before : σ)
    (fault : Fault) (part : Text) : Prop where
  head : ∀ rest, ∃ c more, dropSpace (part ++ rest) = c :: more ∧ c ≠ close
  read : ∀ rest, EndsItem rest → readItem before (part ++ rest) = .error fault

/-- A reader does with a text what the step to the outcome says. -/
def Answers (close : Char) (readItem : σ → Text → Except Fault (σ × Text)) (before : σ)
    (outcome : Except Fault σ) (part : Text) : Prop :=
  match outcome with
  | .ok after => Takes close readItem before after part
  | .error fault => Refuses close readItem before fault part

theorem Answers.head {before : σ} {outcome : Except Fault σ}
    (h : Answers close readItem before outcome part) (rest : Text) :
    ∃ c more, dropSpace (part ++ rest) = c :: more ∧ c ≠ close := by
  cases outcome with
  | ok after => exact Takes.head h rest
  | error fault => exact Refuses.head h rest

/-- Items in front of a comma or of the closing bracket, from behind the first turn: they lead to a
state from which it goes on, or one of them is refused. -/
theorem readItem_outcome (hcomma : ',' ≠ close) {item : α} {others : List α}
    (h : Listed spells (item :: others) text)
    (hitem : ∀ before item part, spells item part →
      Answers close readItem before (step before item) part)
    (state : σ) (hr : EndsItem rest) (steps : Nat) :
    ∃ space, IsSpacing space ∧
      (do
        let (state, rest) ← readItem state (text ++ rest)
        readItems close readItem (others.length + steps) false state rest) = (do
        let state ← (item :: others).foldlM step state
        readItems close readItem steps false state (space ++ rest)) := by
  induction others generalizing item text state with
  | nil =>
    have hanswer := hitem state item text h
    rw [List.foldlM_cons]
    cases hstep : step state item with
    | ok after =>
      rw [hstep] at hanswer
      obtain ⟨space, hs, hread⟩ := Takes.read hanswer rest hr
      refine ⟨space, hs, ?_⟩
      rw [hread, List.length_nil, Nat.zero_add]
      rfl
    | error fault =>
      rw [hstep] at hanswer
      refine ⟨[], isSpacing_nil, ?_⟩
      rw [Refuses.read hanswer rest hr]
      rfl
  | cons next more ih =>
    obtain ⟨first, last, hfirst, hlast, rfl⟩ := h
    have hanswer := hitem state item first hfirst
    rw [List.foldlM_cons, List.append_assoc, List.cons_append, List.length_cons,
      Nat.add_right_comm]
    cases hstep : step state item with
    | ok between =>
      rw [hstep] at hanswer
      obtain ⟨space, hs, hmore⟩ := ih hlast between
      refine ⟨space, hs, ?_⟩
      rw [readItem_comma hcomma hanswer, ok_bind]
      exact hmore
    | error fault =>
      rw [hstep] at hanswer
      refine ⟨[], isSpacing_nil, ?_⟩
      rw [Refuses.read hanswer _ ⟨_, _, rfl, by simp⟩]
      rfl

/-- Items from behind the opening bracket, in front of a comma or of the closing bracket. -/
theorem readItems_front (hcomma : ',' ≠ close) {item : α} {others : List α}
    (h : Listed spells (item :: others) text)
    (hspace : ∀ state text, readItem state (dropSpace text) = readItem state text)
    (hitem : ∀ before item part, spells item part →
      Answers close readItem before (step before item) part)
    (state : σ) (hr : EndsItem rest) (steps : Nat) :
    ∃ space, IsSpacing space ∧
      readItems close readItem (others.length + steps + 1) true state (text ++ rest) = (do
        let state ← (item :: others).foldlM step state
        readItems close readItem steps false state (space ++ rest)) := by
  obtain ⟨part, more, hpart, -, htext⟩ := h.exists_first
  obtain ⟨c, after, hdrop, hc⟩ := (hitem state item part hpart).head (more ++ rest)
  rw [← List.append_assoc, ← htext] at hdrop
  rw [readItems_first hspace hdrop hc]
  exact readItem_outcome hcomma h hitem state hr steps

/-- **What stands between two brackets has the outcome of its items**, which is the first fault if
one of them is refused. -/
theorem readItems_outcome (hclose : close ∈ [']', '\x7d']) {items : List α}
    (h : Listed spells items text)
    (hspace : ∀ state text, readItem state (dropSpace text) = readItem state text)
    (hitem : ∀ before item part, spells item part →
      Answers close readItem before (step before item) part)
    {steps : Nat} (hsteps : items.length ≤ steps) (state : σ) (rest : Text) :
    readItems close readItem (steps + 1) true state (text ++ close :: rest) = (do
      let state ← items.foldlM step state
      .ok (state, rest)) := by
  obtain ⟨hclosing, hends, hcomma⟩ := close_cases hclose
  cases items with
  | nil =>
    rw [readItems_close hclosing h]
    rfl
  | cons item others =>
    obtain ⟨left, rfl⟩ : ∃ left, steps = others.length + (left + 1) :=
      ⟨steps - others.length - 1, by rw [List.length_cons] at hsteps; omega⟩
    have hr : EndsItem (close :: rest) := ⟨_, _, rfl, hends⟩
    obtain ⟨space, hs, hread⟩ := readItems_front hcomma h hspace hitem state hr (left + 1)
    rw [hread]
    refine congrArg _ (funext fun state => ?_)
    exact readItems_close hclosing hs left false state rest

end Items

/-! ## Strings -/

/-- The text of a string. -/
def string? : Json → Option Text
  | .string text => some text
  | _ => none

/-- The character of a string of one character. -/
def char? : Json → Option Char
  | .string [c] => some c
  | _ => none

/-- The texts of an array of strings. -/
def strings? : Json → Option (List Text)
  | .array items => items.mapM string?
  | _ => none

theorem string?_eq_some_iff {string : Text} :
    value.string? = some string ↔ .string string = value := by
  cases value <;> simp [string?, eq_comm]

theorem char?_eq_some_iff {c : Char} : value.char? = some c ↔ .string [c] = value := by
  unfold char?
  split
  case h_1 => simp [eq_comm]
  case h_2 hne => exact iff_of_false (by simp) fun h => hne c h.symm

theorem string?_merged (value : Json) : value.merged.string? = value.string? := by
  cases value <;> rfl

theorem mapM_string?_eq_some_iff {items : List Json} {strings : List Text} :
    items.mapM string? = some strings ↔ strings.map .string = items := by
  induction items generalizing strings with
  | nil => simp [eq_comm]
  | cons item others ih =>
    rw [List.mapM_cons]
    constructor
    · intro h
      obtain ⟨first, hfirst, h⟩ := Option.bind_eq_some_iff.mp h
      obtain ⟨more, hmore, h⟩ := Option.bind_eq_some_iff.mp h
      obtain rfl := Option.some.inj h
      rw [List.map_cons, string?_eq_some_iff.mp hfirst, ih.mp hmore]
    · intro h
      obtain ⟨first, more, rfl, hfirst, hmore⟩ := List.map_eq_cons_iff.mp h
      rw [string?_eq_some_iff.mpr hfirst, ih.mpr hmore]
      rfl

theorem strings?_eq_some_iff {strings : List Text} :
    value.strings? = some strings ↔ .array (strings.map .string) = value := by
  cases value with
  | array items => rw [strings?, mapM_string?_eq_some_iff, Json.array.injEq]
  | null | bool _ | number _ | string _ | object _ => simp [strings?]

/-- What can be read as a value is refused for nothing but its kind. -/
theorem mismatch_of_read {result : Json × Text} (h : read .kept text = .ok result) :
    mismatch text = .mismatched := by
  rw [read, readWithin] at h
  rw [mismatch]
  split at h
  case h_1 => rfl
  case h_2 => rfl
  case h_3 => rw [h]

theorem mismatch_dropSpace (text : Text) : mismatch (dropSpace text) = mismatch text := by
  rw [mismatch, mismatch, dropSpace_dropSpace]

/-- A value that is no string does not begin with a quote. -/
theorem dropSpace_ne_quote (h : read .kept text = .ok (value, rest)) (hvalue : value.string? = none)
    (more : Text) : dropSpace text ≠ '"' :: more := by
  intro hdrop
  rw [read, readWithin, hdrop] at h
  obtain ⟨⟨string, rest'⟩, -, h⟩ := exists_of_bind_eq_ok h
  obtain ⟨rfl, -⟩ := Prod.mk.inj (Except.ok.inj h)
  cases hvalue

/-- A value that is no array does not begin with the bracket of one. -/
theorem dropSpace_ne_bracket (h : read .kept text = .ok (value, rest))
    (hvalue : ∀ items, value ≠ .array items) (more : Text) : dropSpace text ≠ '[' :: more := by
  intro hdrop
  rw [read, readWithin, hdrop] at h
  obtain ⟨⟨items, rest'⟩, -, h⟩ := exists_of_bind_eq_ok h
  obtain ⟨rfl, -⟩ := Prod.mk.inj (Except.ok.inj h)
  exact hvalue items rfl

/-- What is no string is refused for its kind. -/
theorem readString_refused (h : Padded (Spells .kept value) part) (hvalue : value.string? = none)
    (hr : EndsItem rest) : readString (part ++ rest) = .error .mismatched := by
  obtain ⟨space, -, hread⟩ := read_append h hr.endsNumber
  rw [← string?_merged] at hvalue
  rw [readString]
  split
  case h_1 more hdrop => exact absurd hdrop (dropSpace_ne_quote hread hvalue more)
  case h_2 => rw [mismatch_dropSpace, mismatch_of_read hread]

/-- What is no string of one character is refused for its kind. -/
theorem readChar_refused (h : Padded (Spells .kept value) part) (hvalue : value.char? = none)
    (hr : EndsItem rest) : readChar (part ++ rest) = .error .mismatched := by
  cases hstring : value.string? with
  | none => rw [readChar, readString_refused h hstring hr, error_bind]
  | some string =>
    obtain rfl := string?_eq_some_iff.mp hstring
    obtain ⟨space, -, hread⟩ := readString_append h rest
    rw [readChar, hread, ok_bind]
    split
    case h_1 c rest' heq =>
      obtain ⟨rfl, -⟩ := Prod.mk.inj heq
      cases hvalue
    case h_2 => rfl

/-! ## Arrays of strings -/

/-- One more text, if the item is a string. -/
def pushString (read : List Text) (item : Json) : Except Fault (List Text) :=
  match item.string? with
  | some text => .ok (text :: read)
  | none => .error .mismatched

theorem foldlM_pushString {items : List Json} (h : items.mapM string? = none) (read : List Text) :
    items.foldlM pushString read = .error .mismatched := by
  induction items generalizing read with
  | nil => cases h
  | cons item others ih =>
    rw [List.foldlM_cons, pushString]
    cases hitem : item.string? with
    | none => rfl
    | some string =>
      refine ih ?_ (string :: read)
      cases hothers : others.mapM string? with
      | none => rfl
      | some strings =>
        rw [List.mapM_cons, hitem, hothers] at h
        cases h

theorem answers_pushString (h : Padded (Spells .kept value) part) (read : List Text) :
    Answers ']' (readOneMore readString) read (pushString read value) part := by
  rw [pushString]
  cases hstring : value.string? with
  | some string =>
    obtain rfl := string?_eq_some_iff.mp hstring
    exact takes_item h (fun core hcore => hcore.exists_cons)
      (fun rest _ => readString_append h rest) read
  | none =>
    refine ⟨h.exists_dropSpace fun core hcore => hcore.exists_cons, fun rest hr => ?_⟩
    rw [readOneMore, readString_refused h hstring hr, error_bind]

/-- What is no array of strings is refused for its kind. -/
theorem readStrings_refused (h : Padded (Spells .kept value) part) (hvalue : value.strings? = none)
    (hr : EndsItem rest) : readStrings (part ++ rest) = .error .mismatched := by
  cases value with
  | array items =>
    have henclosed := h.mono fun core hcore => spells_array_iff_enclosed.mp hcore
    obtain ⟨inner, space, hinner, hs, hdrop⟩ := henclosed.dropSpace_enclosed (by decide) rest
    have hcount := hinner.length_le
    rw [readStrings, hdrop]
    show readArray readString _ _ = _
    rw [readArray, readItems_outcome (by decide) hinner (readOneMore_dropSpace readString_dropSpace)
      (fun before item part hpart => answers_pushString hpart before)
      (by simp only [List.length_append, List.length_cons]; omega),
      foldlM_pushString hvalue, error_bind, error_bind]
  | null | bool _ | number _ | string _ | object _ =>
    obtain ⟨space, -, hread⟩ := read_append h hr.endsNumber
    rw [readStrings]
    split
    case h_1 more hdrop =>
      exact absurd hdrop (dropSpace_ne_bracket hread (fun items heq => by cases heq) more)
    case h_2 => rw [mismatch_dropSpace, mismatch_of_read hread]

end FilterQuery.Json
