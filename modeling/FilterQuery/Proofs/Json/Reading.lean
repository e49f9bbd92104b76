import FilterQuery.Proofs.Json.Numerals
import FilterQuery.Proofs.Json.Strings

/-!
# The reader takes every text of the grammar

Whatever text of a value is put before the reader, it gives the value and stops where the text ends.
The proof goes with the reader by the number of steps it may take, for which the length of the text
is always enough; what is read between two brackets is treated once, for any kind of item.

A key that appears again in an object is where the reader departs from the grammar: the later value
takes the place of the earlier one.  `Json.merged` says this of a value, at every depth.

* `readItems_append`: what stands between two brackets.
* `readWithin_append`: one value in front of other text.
* `parse_of_padded`: a text that is one value.
-/

namespace FilterQuery.Json

/-! ## Values with keys that appear again -/

mutual

/-- A value in which no object has a key twice: of several values of a key the last one counts, in
the place of the first. -/
def merged : Json → Json
  | .array items => .array (mergedItems items)
  | .object members => .object (mergedMembers members [])
  | value => value

/-- Each of some values by itself. -/
def mergedItems : List Json → List Json
  | [] => []
  | item :: others => merged item :: mergedItems others

/-- Members put behind the members `seen` before them. -/
def mergedMembers : List (Text × Json) → List (Text × Json) → List (Text × Json)
  | [], seen => seen
  | (key, value) :: others, seen => mergedMembers others (putMember key (merged value) seen)

end

theorem mergedItems_eq_map (items : List Json) : mergedItems items = items.map merged := by
  induction items with
  | nil => rfl
  | cons item others ih => rw [mergedItems, ih, List.map_cons]

theorem mergedMembers_eq_foldl (members seen : List (Text × Json)) :
    mergedMembers members seen =
      members.foldl (fun seen member => putMember member.1 member.2.merged seen) seen := by
  induction members generalizing seen with
  | nil => rfl
  | cons member others ih => rw [mergedMembers, ih, List.foldl_cons]

theorem putMember_of_notMem {key : Text} {members : List (Text × Json)}
    (h : key ∉ members.map Prod.fst) (value : Json) :
    putMember key value members = members ++ [(key, value)] := by
  induction members with
  | nil => rfl
  | cons member others ih =>
    rw [List.map_cons, List.mem_cons, not_or] at h
    rw [putMember, if_neg (Ne.symm h.1), ih h.2, List.cons_append]

theorem mergedMembers_of_nodup {members seen : List (Text × Json)}
    (hkeys : ((seen ++ members).map Prod.fst).Nodup)
    (h : ∀ member ∈ members, member.2.merged = member.2) :
    mergedMembers members seen = seen ++ members := by
  induction members generalizing seen with
  | nil => rw [mergedMembers, List.append_nil]
  | cons member others ih =>
    have hnew : member.1 ∉ seen.map Prod.fst := by
      rw [List.map_append, List.map_cons, List.nodup_append] at hkeys
      exact fun hm => hkeys.2.2 _ hm _ List.mem_cons_self rfl
    have hshift : seen ++ member :: others = seen ++ [member] ++ others := by simp
    rw [mergedMembers, h member List.mem_cons_self, putMember_of_notMem hnew, hshift]
    rw [hshift] at hkeys
    exact ih hkeys fun other hm => h other (List.mem_cons_of_mem _ hm)

/-- An object without a key that appears again is as it was, if its values are. -/
theorem merged_object_of_nodup {members : List (Text × Json)}
    (hkeys : (members.map Prod.fst).Nodup) (h : ∀ member ∈ members, member.2.merged = member.2) :
    merged (.object members) = .object members := by
  rw [merged, mergedMembers_of_nodup (by simpa using hkeys) h, List.nil_append]

/-! ## White space -/

variable {use : Use} {text rest space : Text}

theorem dropSpace_cons {c : Char} (h : isSpace c = false) (rest : Text) :
    dropSpace (c :: rest) = c :: rest := by
  rw [dropSpace, List.dropWhile_cons, h, if_neg Bool.false_ne_true]

theorem dropSpace_append (h : IsSpacing space) (text : Text) :
    dropSpace (space ++ text) = dropSpace text :=
  List.dropWhile_append_of_pos h

/-- What is dropped is white space. -/
theorem exists_eq_append_dropSpace (text : Text) :
    ∃ space, IsSpacing space ∧ text = space ++ dropSpace text :=
  ⟨text.takeWhile isSpace, List.all_eq_true.mp List.all_takeWhile,
    List.takeWhile_append_dropWhile.symm⟩

theorem dropSpace_dropSpace (text : Text) : dropSpace (dropSpace text) = dropSpace text := by
  induction text with
  | nil => rfl
  | cons c rest ih =>
    cases hc : isSpace c with
    | true =>
      have hdrop : dropSpace (c :: rest) = dropSpace rest := by
        rw [dropSpace, List.dropWhile_cons, hc, if_pos rfl, dropSpace]
      rw [hdrop, ih]
    | false => rw [dropSpace_cons hc, dropSpace_cons hc]

/-- Items between brackets, seen from behind the white space. -/
theorem Padded.dropSpace_enclosed {α : Type} {opening closing : Char} {spells : α → Text → Prop}
    {items : List α} (h : Padded (Enclosed opening closing spells items) text)
    (ho : isSpace opening = false) (rest : Text) :
    ∃ inner space, Listed spells items inner ∧ IsSpacing space ∧
      dropSpace (text ++ rest) = opening :: (inner ++ closing :: (space ++ rest)) := by
  obtain ⟨front, core, back, hf, ⟨inner, hinner, rfl⟩, hb, rfl⟩ := h
  refine ⟨inner, back, hinner, hb, ?_⟩
  rw [List.append_assoc, List.append_assoc, dropSpace_append hf, List.cons_append,
    List.cons_append, dropSpace_cons ho]
  simp

/-- A whole text of items between brackets, seen from behind the white space. -/
theorem Padded.dropSpace_whole {α : Type} {opening closing : Char} {spells : α → Text → Prop}
    {items : List α} (h : Padded (Enclosed opening closing spells items) text)
    (ho : isSpace opening = false) :
    ∃ inner space, Listed spells items inner ∧ IsSpacing space ∧
      dropSpace text = opening :: (inner ++ closing :: space) := by
  obtain ⟨inner, space, hinner, hs, hdrop⟩ := h.dropSpace_enclosed ho []
  rw [List.append_nil, List.append_nil] at hdrop
  exact ⟨inner, space, hinner, hs, hdrop⟩

theorem eq_of_isSpace {c : Char} (h : isSpace c = true) : c ∈ [' ', '\n', '\t', '\r'] := by
  simpa [isSpace, or_assoc] using h

/-- White space does not go on with a number. -/
theorem EndsNumber.append (hs : IsSpacing space) (hr : EndsNumber rest) :
    EndsNumber (space ++ rest) := by
  cases space with
  | nil => exact hr
  | cons c more =>
    have hall : ∀ d ∈ [' ', '\n', '\t', '\r'], d.isDigit = false ∧ d ∉ ['.', 'e', 'E'] := by simp
    obtain ⟨hd, hc⟩ := hall c (eq_of_isSpace (hs c List.mem_cons_self))
    exact endsNumber_cons hd hc _

/-! ## Between two brackets -/

section Items

variable {σ α : Type} {close : Char} {readItem : σ → Text → Except Fault (σ × Text)}
  {step : σ → α → Option σ} {spells : α → Text → Prop} {state state' : σ}

/-- What stands behind an item: a comma or a closing bracket. -/
def EndsItem (rest : Text) : Prop :=
  ∃ c more, rest = c :: more ∧ c ∈ [',', ']', '\x7d']

theorem EndsItem.endsNumber (h : EndsItem rest) : EndsNumber rest := by
  obtain ⟨c, more, rfl, hc⟩ := h
  have hall : ∀ d ∈ [',', ']', '\x7d'], d.isDigit = false ∧ d ∉ ['.', 'e', 'E'] := by simp
  exact endsNumber_cons (hall c hc).1 (hall c hc).2 more

/-- A reader takes a text for an item: it can be told from the bracket `close`, and is read up to
white space in front of what follows, which takes one state to another. -/
structure Takes (close : Char) (readItem : σ → Text → Except Fault (σ × Text)) (before after : σ)
    (part : Text) : Prop where
  head : ∀ rest, ∃ c more, dropSpace (part ++ rest) = c :: more ∧ c ≠ close
  read : ∀ rest, EndsItem rest →
    ∃ space, IsSpacing space ∧ readItem before (part ++ rest) = .ok (after, space ++ rest)

theorem turn_close (hs : IsSpacing space) (hc : isSpace close = false) (first : Bool)
    (rest : Text) : turn close first (space ++ close :: rest) = .ok (.close rest) := by
  rw [turn, dropSpace_append hs, dropSpace_cons hc]
  exact if_pos rfl

theorem turn_first {c : Char} (h : dropSpace text = c :: rest) (hc : c ≠ close) :
    turn close true text = .ok (.item (c :: rest)) := by
  rw [turn, h]
  exact if_neg hc

theorem turn_comma (hs : IsSpacing space) (hc : ',' ≠ close) (rest : Text) :
    turn close false (space ++ ',' :: rest) = .ok (.item rest) := by
  rw [turn, dropSpace_append hs, dropSpace_cons (by decide)]
  exact if_neg hc

/-- Neither closing bracket can be taken for something else. -/
theorem close_cases (hclose : close ∈ [']', '\x7d']) :
    isSpace close = false ∧ close ∈ [',', ']', '\x7d'] ∧ ',' ≠ close := by
  have hall : ∀ c ∈ [']', '\x7d'], isSpace c = false ∧ c ∈ [',', ']', '\x7d'] ∧ ',' ≠ c := by
    simp [isSpace]
  exact hall close hclose

/-- One item and then others take one state to another by a state in between. -/
theorem exists_of_foldlM_cons {item : α} {others : List α}
    (h : (item :: others).foldlM step state = some state') :
    ∃ between, step state item = some between ∧ others.foldlM step between = some state' := by
  rw [List.foldlM_cons] at h
  exact Option.bind_eq_some_iff.mp h

/-- At the closing bracket nothing more is read. -/
theorem readItems_close (hc : isSpace close = false) (hs : IsSpacing space) (steps : Nat)
    (first : Bool) (state : σ) (rest : Text) :
    readItems close readItem (steps + 1) first state (space ++ close :: rest) =
      .ok (state, rest) := by
  rw [readItems, turn_close hs hc, ok_bind]

/-- Behind an item and a comma comes the next item. -/
theorem readItem_comma (hcomma : ',' ≠ close) {before after : σ} {part : Text}
    (h : Takes close readItem before after part) (steps : Nat) (rest : Text) :
    (do
      let (state, rest) ← readItem before (part ++ ',' :: rest)
      readItems close readItem (steps + 1) false state rest) = (do
      let (state, rest) ← readItem after rest
      readItems close readItem steps false state rest) := by
  obtain ⟨space, hs, hread⟩ := h.read (',' :: rest) ⟨_, _, rfl, by simp⟩
  rw [hread, ok_bind]
  dsimp only
  rw [readItems, turn_comma hs hcomma, ok_bind]

/-- Behind the first turn: an item is read, and then the others with a comma before each. -/
theorem readItem_append (hclose : close ∈ [']', '\x7d']) {item : α} {others : List α}
    (h : Listed spells (item :: others) text)
    (hitem : ∀ before item after part, step before item = some after → spells item part →
      part.length ≤ text.length → Takes close readItem before after part)
    {steps : Nat} (hsteps : others.length ≤ steps)
    (hstate : (item :: others).foldlM step state = some state') (rest : Text) :
    (do
      let (state, rest) ← readItem state (text ++ close :: rest)
      readItems close readItem (steps + 1) false state rest) = .ok (state', rest) := by
  obtain ⟨hspace, hends, hcomma⟩ := close_cases hclose
  induction others generalizing item text state steps with
  | nil =>
    obtain ⟨after, hstep, hafter⟩ := exists_of_foldlM_cons hstate
    obtain rfl : after = state' := Option.some.inj hafter
    obtain ⟨space, hs, hread⟩ :=
      (hitem _ _ _ text hstep h (Nat.le_refl _)).read (close :: rest) ⟨_, _, rfl, hends⟩
    rw [hread, ok_bind]
    exact readItems_close hspace hs steps false _ rest
  | cons next more ih =>
    obtain ⟨first, last, hfirst, hlast, rfl⟩ := h
    obtain ⟨between, hstep, hothers⟩ := exists_of_foldlM_cons hstate
    cases steps with
    | zero => exact absurd hsteps (by simp)
    | succ steps =>
      have hmore := ih hlast
        (fun before item after part hstep hpart hlen =>
          hitem before item after part hstep hpart (by simp; omega))
        (Nat.le_of_succ_le_succ hsteps) hothers
      rw [List.append_assoc, List.cons_append,
        readItem_comma hcomma (hitem _ _ _ first hstep hfirst (by simp))]
      exact hmore

/-- The first of some items stands at the front of their text. -/
theorem Listed.exists_first {item : α} {others : List α} (h : Listed spells (item :: others) text) :
    ∃ part more, spells item part ∧ part.length ≤ text.length ∧ text = part ++ more := by
  cases others with
  | nil => exact ⟨text, [], h, Nat.le_refl _, by simp⟩
  | cons next others =>
    obtain ⟨first, last, hfirst, -, rfl⟩ := h
    exact ⟨first, _, hfirst, by simp, rfl⟩

/-- What can be told from the closing bracket is read as the first item. -/
theorem readItems_first {c : Char} {more : Text}
    (hspace : ∀ state text, readItem state (dropSpace text) = readItem state text)
    (hdrop : dropSpace text = c :: more) (hc : c ≠ close) (steps : Nat) (state : σ) :
    readItems close readItem (steps + 1) true state text = (do
      let (state, rest) ← readItem state text
      readItems close readItem steps false state rest) := by
  rw [readItems, turn_first hdrop hc, ok_bind]
  dsimp only
  rw [← hdrop, hspace]

/-- **What stands between two brackets is read item by item.** -/
theorem readItems_append (hclose : close ∈ [']', '\x7d']) {items : List α}
    (h : Listed spells items text)
    (hspace : ∀ state text, readItem state (dropSpace text) = readItem state text)
    (hitem : ∀ before item after part, step before item = some after → spells item part →
      part.length ≤ text.length → Takes close readItem before after part)
    {steps : Nat} (hsteps : items.length ≤ steps)
    (hstate : items.foldlM step state = some state') (rest : Text) :
    readItems close readItem (steps + 1) true state (text ++ close :: rest) =
      .ok (state', rest) := by
  cases items with
  | nil =>
    obtain rfl : state = state' := Option.some.inj hstate
    exact readItems_close (close_cases hclose).1 h steps true state rest
  | cons item others =>
    obtain ⟨part, more, hpart, hlen, htext⟩ := h.exists_first
    obtain ⟨between, hstep, -⟩ := exists_of_foldlM_cons hstate
    obtain ⟨c, after, hdrop, hc⟩ := (hitem _ _ _ part hstep hpart hlen).head
      (more ++ close :: rest)
    rw [← List.append_assoc, ← htext] at hdrop
    cases steps with
    | zero => exact absurd hsteps (by simp)
    | succ steps =>
      rw [readItems_first hspace hdrop hc]
      exact readItem_append hclose h hitem (Nat.le_of_succ_le_succ hsteps) hstate rest

end Items

/-! ## Arrays -/

section Arrays

variable {α β : Type} {readItem : Text → Except Fault (β × Text)}

/-- An item can be told from the bracket that closes an array. -/
theorem Padded.exists_dropSpace {kind : Text → Prop} {part : Text} (h : Padded kind part)
    (hhead : ∀ core, kind core → ∃ c more, core = c :: more ∧ isSpace c = false ∧ c ≠ ']')
    (rest : Text) : ∃ c more, dropSpace (part ++ rest) = c :: more ∧ c ≠ ']' := by
  obtain ⟨front, core, back, hf, hcore, -, rfl⟩ := h
  obtain ⟨c, more, rfl, hs, hc⟩ := hhead core hcore
  refine ⟨c, more ++ (back ++ rest), ?_, hc⟩
  rw [List.append_assoc, List.append_assoc, dropSpace_append hf, List.cons_append,
    dropSpace_cons hs]

/-- An item of an array is taken, given that it can be read. -/
theorem takes_item {kind : Text → Prop} {item : β} {part : Text} (h : Padded kind part)
    (hhead : ∀ core, kind core → ∃ c more, core = c :: more ∧ isSpace c = false ∧ c ≠ ']')
    (hread : ∀ rest, EndsItem rest → ∃ space, IsSpacing space ∧
      readItem (part ++ rest) = .ok (item, space ++ rest)) (read : List β) :
    Takes ']' (readOneMore readItem) read (item :: read) part := by
  refine ⟨h.exists_dropSpace hhead, fun rest hr => ?_⟩
  obtain ⟨space, hs, hvalue⟩ := hread rest hr
  refine ⟨space, hs, ?_⟩
  rw [readOneMore, hvalue, ok_bind]

theorem readOneMore_dropSpace (h : ∀ text, readItem (dropSpace text) = readItem text)
    (read : List β) (text : Text) :
    readOneMore readItem read (dropSpace text) = readOneMore readItem read text := by
  rw [readOneMore, readOneMore, h]

/-- An array is read item by item, each of which gives `result` of what it stands for. -/
theorem readArray_append {spells : α → Text → Prop} {result : α → β} {items : List α}
    (h : Listed spells items text) (hspace : ∀ text, readItem (dropSpace text) = readItem text)
    (htakes : ∀ item part read, spells item part → part.length ≤ text.length →
      Takes ']' (readOneMore readItem) read (result item :: read) part)
    {steps : Nat} (hsteps : items.length ≤ steps) (rest : Text) :
    readArray readItem (steps + 1) (text ++ ']' :: rest) = .ok (items.map result, rest) := by
  have hitems : readItems ']' (readOneMore readItem) (steps + 1) true [] (text ++ ']' :: rest) =
      .ok (items.foldl (fun read item => result item :: read) [], rest) := by
    refine readItems_append (by decide) h (readOneMore_dropSpace hspace) ?_ hsteps
      List.foldlM_pure rest
    rintro before item _ part ⟨⟩ hpart hle
    exact htakes item part before hpart hle
  rw [readArray, hitems, ok_bind]
  dsimp only
  rw [List.foldl_flip_cons_eq_append, List.append_nil, List.reverse_reverse]

end Arrays

/-! ## Members -/

/-- A quoted string is read up to what follows it, by a reader that drops white space first. -/
theorem dropSpace_spellsString {key keyText : Text}
    (h : Padded (SpellsString use key) keyText) (rest : Text) :
    ∃ code space, Quoted.Spells use key code ∧ IsSpacing space ∧
      dropSpace (keyText ++ rest) = '"' :: (code ++ '"' :: (space ++ rest)) := by
  obtain ⟨front, core, back, hf, ⟨code, hcode, rfl⟩, hb, rfl⟩ := h
  refine ⟨code, back, hcode, hb, ?_⟩
  rw [List.append_assoc, List.append_assoc, dropSpace_append hf, List.cons_append, List.cons_append,
    dropSpace_cons (by decide)]
  simp

theorem readKey_append {key keyText : Text} (h : Padded (SpellsString use key) keyText)
    (rest : Text) :
    ∃ space, IsSpacing space ∧ readKey use (keyText ++ rest) = .ok (key, space ++ rest) := by
  obtain ⟨code, space, hcode, hs, hdrop⟩ := dropSpace_spellsString h rest
  refine ⟨space, hs, ?_⟩
  rw [readKey, hdrop]
  exact Quoted.read_append hcode (space ++ rest)

theorem readColon_append (hs : IsSpacing space) (rest : Text) :
    readColon (space ++ ':' :: rest) = .ok rest := by
  rw [readColon, dropSpace_append hs, dropSpace_cons (by decide)]
  rfl

/-- A member begins with the quote of its key. -/
theorem IsMember.exists_dropSpace {key : Text} {kind : Text → Prop} (h : IsMember use key kind text)
    (rest : Text) : ∃ c more, dropSpace (text ++ rest) = c :: more ∧ c ≠ '\x7d' := by
  obtain ⟨keyText, valueText, hkey, -, rfl⟩ := h
  obtain ⟨code, space, -, -, hdrop⟩ := dropSpace_spellsString hkey (':' :: valueText ++ rest)
  rw [List.append_assoc, hdrop]
  exact ⟨_, _, rfl, by decide⟩

/-- The key of a member is read, and the colon behind it. -/
theorem IsMember.exists_readKey {key : Text} {kind : Text → Prop} (h : IsMember use key kind text)
    (rest : Text) : ∃ valueText more, Padded kind valueText ∧ valueText.length ≤ text.length ∧
      readKey use (text ++ rest) = .ok (key, more) ∧ readColon more = .ok (valueText ++ rest) := by
  obtain ⟨keyText, valueText, hkey, hpadded, rfl⟩ := h
  obtain ⟨space, hs, hread⟩ := readKey_append hkey (':' :: (valueText ++ rest))
  refine ⟨valueText, space ++ ':' :: (valueText ++ rest), hpadded, ?_, ?_,
    readColon_append hs (valueText ++ rest)⟩
  · simp only [List.length_append, List.length_cons]
    omega
  · rw [List.append_assoc, List.cons_append, hread]

/-- A member is taken, given that its value is. -/
theorem takes_member {readValue : Text → Except Fault (Json × Text)} {key : Text} {value : Json}
    {kind : Text → Prop} {part : Text} (h : IsMember use key kind part)
    (hvalue : ∀ valueText, Padded kind valueText → valueText.length ≤ part.length → ∀ rest,
      EndsItem rest → ∃ space, IsSpacing space ∧
        readValue (valueText ++ rest) = .ok (value, space ++ rest))
    (members : List (Text × Json)) :
    Takes '\x7d' (readMember use readValue) members (putMember key value members) part := by
  refine ⟨h.exists_dropSpace, fun rest hr => ?_⟩
  obtain ⟨valueText, more, hpadded, hle, hkey, hcolon⟩ := h.exists_readKey rest
  obtain ⟨space, hs, hread⟩ := hvalue valueText hpadded hle rest hr
  refine ⟨space, hs, ?_⟩
  rw [readMember, hkey, ok_bind]
  dsimp only
  rw [hcolon, ok_bind, hread, ok_bind]

theorem readKey_dropSpace (text : Text) : readKey use (dropSpace text) = readKey use text := by
  rw [readKey, readKey, dropSpace_dropSpace]

/-! ## Values -/

theorem readWithin_dropSpace (steps : Nat) (text : Text) :
    readWithin use steps (dropSpace text) = readWithin use steps text := by
  cases steps with
  | zero => rfl
  | succ steps => rw [readWithin, readWithin, dropSpace_dropSpace]

/-- What begins with neither white space nor an opening bracket is a word, a string or a number. -/
theorem readWithin_scalar {c : Char} (hs : isSpace c = false) (hc : c ≠ '[' ∧ c ≠ '\x7b')
    (steps : Nat) (rest : Text) :
    readWithin use (steps + 1) (c :: rest) = readScalar use (c :: rest) := by
  rw [readWithin, dropSpace_cons hs]
  split
  case h_1 h => exact absurd (List.cons.inj h).1 hc.1
  case h_2 h => exact absurd (List.cons.inj h).1 hc.2
  case h_3 => rfl

theorem readWithin_array (steps : Nat) (rest : Text) :
    readWithin use (steps + 1) ('[' :: rest) = (do
      let (items, rest) ← readArray (readWithin use steps) (steps + 1) rest
      .ok (.array items, rest)) := rfl

theorem readWithin_object (steps : Nat) (rest : Text) :
    readWithin use (steps + 1) ('\x7b' :: rest) = (do
      let (members, rest) ←
        readItems '\x7d' (readMember use (readWithin use steps)) (steps + 1) true [] rest
      .ok (.object members, rest)) := rfl

theorem readWord_append (word rest : Text) : readWord word (word ++ rest) = .ok rest := by
  induction word with
  | nil => rw [List.nil_append, readWord]
  | cons c more ih => rw [List.cons_append, readWord, if_pos rfl, ih]

/-- A digit is no character of another token, and neither is the sign of a number. -/
theorem numberHead_cases {c : Char} (h : c = '-' ∨ c.isDigit = true) :
    isSpace c = false ∧ c ∉ ['[', '\x7b', ']', 'n', 't', 'f', '"'] := by
  rcases h with rfl | hd
  · decide
  have hne : ∀ d : Char, d.isDigit = false → c ≠ d := by
    rintro d hd' rfl
    exact absurd hd (by simp [hd'])
  constructor
  · refine Bool.eq_false_iff.mpr fun hs => ?_
    have hall : ∀ d ∈ [' ', '\n', '\t', '\r'], d.isDigit = false := by simp
    exact hne c (hall c (eq_of_isSpace hs)) rfl
  · intro hm
    have hall : ∀ d ∈ ['[', '\x7b', ']', 'n', 't', 'f', '"'], d.isDigit = false := by simp
    exact hne c (hall c hm) rfl

/-- A value begins neither with white space nor with the bracket that closes an array. -/
theorem Spells.exists_cons {value : Json} (h : Spells use value text) :
    ∃ c more, text = c :: more ∧ isSpace c = false ∧ c ≠ ']' := by
  cases value with
  | null => exact ⟨_, _, h, by decide, by decide⟩
  | bool value =>
    cases value with
    | true => exact ⟨_, _, h, by decide, by decide⟩
    | false => exact ⟨_, _, h, by decide, by decide⟩
  | number value =>
    obtain ⟨numeral, hn, -⟩ := h
    obtain ⟨c, more, rfl, hc⟩ := hn.exists_cons
    obtain ⟨hs, hm⟩ := numberHead_cases hc
    exact ⟨c, more, rfl, hs, by rintro rfl; exact hm (by decide)⟩
  | string value =>
    obtain ⟨code, -, rfl⟩ := h
    exact ⟨_, _, rfl, by decide, by decide⟩
  | array items =>
    obtain ⟨inner, -, rfl⟩ := h
    exact ⟨_, _, rfl, by decide, by decide⟩
  | object members =>
    obtain ⟨inner, -, rfl⟩ := h
    exact ⟨_, _, rfl, by decide, by decide⟩

theorem readScalar_number {numeral : Numeral} {value : Number} (h : Numeral.Spells numeral text)
    (hv : numberOf use numeral = .ok value) (hr : EndsNumber rest) :
    readScalar use (text ++ rest) = .ok (.number value, rest) := by
  have hread : Numeral.read use (text ++ rest) = .ok (numeral, rest) := Numeral.read_append h hr
  obtain ⟨c, more, rfl, hc⟩ := h.exists_cons
  obtain ⟨-, hm⟩ := numberHead_cases hc
  simp only [List.mem_cons, List.not_mem_nil, or_false, not_or] at hm
  obtain ⟨-, -, -, hn, ht, hf, hq⟩ := hm
  rw [List.cons_append] at hread ⊢
  rw [readScalar, if_pos (by simpa using hc), hread, ok_bind]
  · dsimp only
    rw [hv, ok_bind]
  all_goals assumption

/-- There are never more items than characters, but for one. -/
theorem Listed.length_le {α : Type} {spells : α → Text → Prop} {items : List α}
    (h : Listed spells items text) : items.length ≤ text.length + 1 := by
  induction items generalizing text with
  | nil => simp
  | cons item others ih =>
    cases others with
    | nil => simp
    | cons next more =>
      obtain ⟨first, last, -, hlast, rfl⟩ := h
      have hle := ih hlast
      simp only [List.length_cons, List.length_append] at hle ⊢
      omega

/-- That many steps are enough for the values in as many characters, with white space around them.
The white space behind a value is left. -/
def ReadsPadded (use : Use) (steps : Nat) : Prop :=
  ∀ {value : Json} {part : Text}, Padded (Spells use value) part → part.length ≤ steps →
    ∀ rest, EndsItem rest → ∃ space, IsSpacing space ∧
      readWithin use steps (part ++ rest) = .ok (value.merged, space ++ rest)

theorem readWithin_array_append {steps : Nat} {items : List Json} (hpadded : ReadsPadded use steps)
    (h : SpellsItems use items text) (hlen : text.length < steps) (rest : Text) :
    readWithin use (steps + 1) ('[' :: (text ++ ']' :: rest)) =
      .ok (.array (mergedItems items), rest) := by
  have hlisted := spellsItems_iff_listed.mp h
  have hcount := hlisted.length_le
  have hitems : readArray (readWithin use steps) (steps + 1) (text ++ ']' :: rest) =
      .ok (items.map merged, rest) := by
    refine readArray_append hlisted (readWithin_dropSpace steps) ?_ (by omega) rest
    intro item part read hpart hle
    exact takes_item hpart (fun core hcore => hcore.exists_cons) (hpadded hpart (by omega)) read
  rw [readWithin_array, hitems, ok_bind, mergedItems_eq_map]

theorem readWithin_object_append {steps : Nat} {members : List (Text × Json)}
    (hpadded : ReadsPadded use steps) (h : SpellsMembers use members text)
    (hlen : text.length < steps) (rest : Text) :
    readWithin use (steps + 1) ('\x7b' :: (text ++ '\x7d' :: rest)) =
      .ok (.object (mergedMembers members []), rest) := by
  have hlisted := spellsMembers_iff_listed.mp h
  have hcount := hlisted.length_le
  have hmembers : readItems '\x7d' (readMember use (readWithin use steps)) (steps + 1) true []
      (text ++ '\x7d' :: rest) =
        .ok (members.foldl (fun seen member => putMember member.1 member.2.merged seen) [],
          rest) := by
    refine readItems_append (by decide) hlisted ?_ ?_ (by omega) List.foldlM_pure rest
    · intro seen text
      rw [readMember, readMember, readKey_dropSpace]
    · rintro before member _ part ⟨⟩ hpart hle
      exact takes_member hpart (fun valueText hvalue hle' => hpadded hvalue (by omega)) before
  rw [readWithin_object, hmembers, ok_bind, mergedMembers_eq_foldl]

/-- A word, a number or a string is read in one step, and is as it was written. -/
theorem readWithin_scalar_append {value : Json} (h : Spells use value text)
    (harray : ∀ items, value ≠ .array items) (hobject : ∀ members, value ≠ .object members)
    (hr : EndsNumber rest) (steps : Nat) :
    readWithin use (steps + 1) (text ++ rest) = .ok (value, rest) := by
  cases value with
  | null =>
    obtain rfl : text = 'n' :: "ull".toList := h.trans (by decide)
    rw [List.cons_append, readWithin_scalar (by decide) (by decide), readScalar, readWord_append]
    rfl
  | bool value =>
    cases value with
    | true =>
      obtain rfl : text = 't' :: "rue".toList := h.trans (by decide)
      rw [List.cons_append, readWithin_scalar (by decide) (by decide), readScalar,
        readWord_append]
      rfl
    | false =>
      obtain rfl : text = 'f' :: "alse".toList := h.trans (by decide)
      rw [List.cons_append, readWithin_scalar (by decide) (by decide), readScalar,
        readWord_append]
      rfl
  | number value =>
    obtain ⟨numeral, hn, hv⟩ := h
    have hscalar := readScalar_number hn hv hr
    obtain ⟨c, more, rfl, hc⟩ := hn.exists_cons
    obtain ⟨hs, hm⟩ := numberHead_cases hc
    simp only [List.mem_cons, not_or] at hm
    rw [List.cons_append] at hscalar ⊢
    rw [readWithin_scalar hs ⟨hm.1, hm.2.1⟩, hscalar]
  | string value =>
    obtain ⟨code, hcode, rfl⟩ := h
    rw [List.cons_append, List.cons_append, readWithin_scalar (by decide) (by decide), readScalar,
      List.append_assoc, List.singleton_append, Quoted.read_append hcode, ok_bind]
  | array items => exact absurd rfl (harray items)
  | object members => exact absurd rfl (hobject members)

/-- **The reader takes each text of a value**, in front of anything that does not go on with a
number. -/
theorem readWithin_append {steps : Nat} {value : Json} (h : Spells use value text)
    (hlen : text.length ≤ steps) (hr : EndsNumber rest) :
    readWithin use steps (text ++ rest) = .ok (value.merged, rest) := by
  induction steps generalizing value text rest with
  | zero =>
    obtain ⟨c, more, rfl, -⟩ := h.exists_cons
    exact absurd hlen (by simp)
  | succ steps ih =>
    have hpadded : ReadsPadded use steps := by
      rintro value part ⟨front, core, back, hf, hcore, hb, rfl⟩ hle rest hends
      simp only [List.length_append] at hle
      refine ⟨back, hb, ?_⟩
      rw [← readWithin_dropSpace, List.append_assoc, List.append_assoc, dropSpace_append hf,
        readWithin_dropSpace]
      exact ih hcore (by omega) (hends.endsNumber.append hb)
    cases value with
    | null | bool _ | number _ | string _ =>
      exact readWithin_scalar_append h (by simp) (by simp) hr steps
    | array items =>
      obtain ⟨inner, hinner, rfl⟩ := h
      simp only [List.length_append, List.length_cons, List.length_nil] at hlen
      rw [List.append_assoc, List.singleton_append]
      exact readWithin_array_append hpadded hinner (by omega) rest
    | object members =>
      obtain ⟨inner, hinner, rfl⟩ := h
      simp only [List.length_append, List.length_cons, List.length_nil] at hlen
      rw [List.append_assoc, List.singleton_append]
      exact readWithin_object_append hpadded hinner (by omega) rest

/-- A value with white space around it is read up to the white space behind it. -/
theorem read_append {value : Json} (h : Padded (Spells use value) text) (hr : EndsNumber rest) :
    ∃ space, IsSpacing space ∧ read use (text ++ rest) = .ok (value.merged, space ++ rest) := by
  obtain ⟨front, core, back, hf, hcore, hb, rfl⟩ := h
  refine ⟨back, hb, ?_⟩
  rw [read, ← readWithin_dropSpace, List.append_assoc, List.append_assoc, dropSpace_append hf,
    readWithin_dropSpace]
  refine readWithin_append hcore ?_ (hr.append hb)
  simp only [List.length_append]
  omega

theorem readEnd_of_isSpacing (h : IsSpacing text) : readEnd text = .ok () := by
  have hdrop := dropSpace_append h []
  rw [List.append_nil] at hdrop
  rw [readEnd, hdrop]
  rfl

/-- **A text of the grammar is the value that it stands for**, with white space around it or not. -/
theorem parse_of_padded {value : Json} (h : Padded (Spells .kept value) text) :
    parse text = .ok value.merged := by
  obtain ⟨space, hs, hread⟩ := read_append h endsNumber_nil
  rw [List.append_nil, List.append_nil] at hread
  rw [parse, hread, ok_bind]
  dsimp only
  rw [readEnd_of_isSpacing hs, ok_bind]

/-! ## Values of one kind -/

theorem readString_dropSpace (text : Text) : readString (dropSpace text) = readString text := by
  rw [readString, readString, dropSpace_dropSpace]

theorem readStrings_dropSpace (text : Text) : readStrings (dropSpace text) = readStrings text := by
  rw [readStrings, readStrings, dropSpace_dropSpace]

/-- A string is read like a key.  Only what is refused is refused for other reasons. -/
theorem readString_eq_ok_iff {result : Text × Text} :
    readString text = .ok result ↔ readKey .kept text = .ok result := by
  rw [readString, readKey]
  cases dropSpace text with
  | nil => exact iff_of_false (by simp) (by simp)
  | cons c more =>
    by_cases hc : c = '"'
    · subst hc
      rfl
    · split
      case h_1 h => exact absurd (List.cons.inj h).1 hc
      case h_2 =>
        split
        case h_1 h => exact absurd h (List.cons_ne_nil _ _)
        case h_2 h => exact absurd (List.cons.inj h).1 hc
        case h_3 => exact iff_of_false (by simp) (by simp)

theorem readChar_eq_ok_iff {c : Char} :
    readChar text = .ok (c, rest) ↔ readString text = .ok ([c], rest) := by
  rw [readChar]
  cases readString text with
  | error => simp [error_bind]
  | ok pair =>
    obtain ⟨string, rest'⟩ := pair
    rw [ok_bind]
    split
    case h_1 d more h =>
      obtain ⟨rfl, rfl⟩ := Prod.mk.inj h
      simp
    case h_2 hne =>
      refine iff_of_false (by simp) fun h => ?_
      exact hne c rest (Except.ok.inj h)

theorem readString_append {value : Text} (h : Padded (Spells .kept (.string value)) text)
    (rest : Text) :
    ∃ space, IsSpacing space ∧ readString (text ++ rest) = .ok (value, space ++ rest) := by
  obtain ⟨space, hs, hread⟩ := readKey_append h rest
  exact ⟨space, hs, readString_eq_ok_iff.mpr hread⟩

theorem readStrings_append {values : List Text}
    (h : Padded (Spells .kept (.array (values.map .string))) text) (rest : Text) :
    ∃ space, IsSpacing space ∧ readStrings (text ++ rest) = .ok (values, space ++ rest) := by
  have henclosed := h.mono fun core hcore => spells_array_iff_enclosed.mp hcore
  obtain ⟨inner, space, hinner, hs, hdrop⟩ := henclosed.dropSpace_enclosed (by decide) rest
  have hlisted := (listed_map Json.string).mp hinner
  have hcount := hlisted.length_le
  refine ⟨space, hs, ?_⟩
  rw [readStrings, hdrop]
  show readArray readString _ _ = _
  rw [readArray_append hlisted readString_dropSpace ?_ ?_ (space ++ rest), List.map_id']
  · intro value part read hpart _
    exact takes_item hpart (fun core hcore => hcore.exists_cons)
      (fun rest _ => readString_append hpart rest) read
  · simp only [List.length_append, List.length_cons]
    omega

end FilterQuery.Json
