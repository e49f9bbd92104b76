import FilterQuery.Proofs.Json.Reading

/-!
# The reader takes nothing but the grammar

Whatever the reader takes off the front of a text is a text of the grammar for what it gives, with
white space in front.  Together with what `readWithin_append` says this makes the grammar and the
reader two accounts of one language: the one goes by the value, the other by the text.

The proof follows the reader.  Each part of a number, each escape of a string and each turn between
two brackets is accounted for by the constructor of the grammar that it stands for, so a text that
the grammar has not must have been refused.

* `Numeral.exists_of_read`, `Quoted.exists_of_read`: numbers and strings.
* `exists_of_readItems`: what stands between two brackets.
* `exists_of_read`: a value.
* `parse_eq_ok_iff`: a text that is one value.
-/

namespace FilterQuery.Json

variable {use : Use} {text rest : Text}

theorem exists_of_bind_eq_ok {α β : Type} {result : Except Fault α} {next : α → Except Fault β}
    {b : β} (h : result >>= next = .ok b) : ∃ a, result = .ok a ∧ next a = .ok b := by
  cases result with
  | error => cases h
  | ok a => exact ⟨a, rfl, h⟩

/-! ## White space -/

/-- Items between brackets, with white space in front of them. -/
theorem exists_enclosed {α : Type} {opening closing : Char} {spells : α → Text → Prop}
    {items : List α} {inner : Text} (h : Listed spells items inner)
    (hdrop : dropSpace text = opening :: (inner ++ closing :: rest)) :
    ∃ part, Padded (Enclosed opening closing spells items) part ∧ text = part ++ rest := by
  obtain ⟨space, hs, htext⟩ := exists_eq_append_dropSpace text
  refine ⟨space ++ (opening :: inner ++ [closing]), ?_, by rw [htext, hdrop]; simp⟩
  exact ⟨space, _, [], hs, ⟨inner, h, rfl⟩, isSpacing_nil, by simp⟩

theorem IsSpacing.append {front back : Text} (hf : IsSpacing front) (hb : IsSpacing back) :
    IsSpacing (front ++ back) := by
  rintro c hc
  rcases List.mem_append.mp hc with hc | hc
  · exact hf c hc
  · exact hb c hc

/-- White space around a text that may have white space around it. -/
theorem Padded.surround {kind : Text → Prop} {front back : Text} (h : Padded kind text)
    (hf : IsSpacing front) (hb : IsSpacing back) : Padded kind (front ++ text ++ back) := by
  obtain ⟨front', core, back', hf', hcore, hb', rfl⟩ := h
  exact ⟨front ++ front', core, back' ++ back, hf.append hf', hcore, hb'.append hb, by simp⟩

/-- White space in front of the key and behind the value. -/
theorem IsMember.surround {key front back : Text} {kind : Text → Prop}
    (h : IsMember use key kind text) (hf : IsSpacing front) (hb : IsSpacing back) :
    IsMember use key kind (front ++ text ++ back) := by
  obtain ⟨keyText, valueText, hkey, hvalue, rfl⟩ := h
  exact ⟨front ++ keyText ++ [], [] ++ valueText ++ back, hkey.surround hf isSpacing_nil,
    hvalue.surround isSpacing_nil hb, by simp⟩

/-! ## Numbers -/

namespace Numeral

theorem isDigits_of_readDigits {digits : Text} (h : readDigits use text = .ok (digits, rest)) :
    IsDigits digits ∧ text = digits ++ rest := by
  rw [readDigits] at h
  split at h
  case isTrue hne =>
    obtain ⟨rfl, rfl⟩ := Prod.mk.inj (Except.ok.inj h)
    refine ⟨⟨by simpa using hne, List.all_eq_true.mp List.all_takeWhile⟩, ?_⟩
    exact List.takeWhile_append_dropWhile.symm
  case isFalse =>
    split at h
    · cases h
    · cases h

theorem isWhole_of_readWhole {digits : Text} (h : readWhole use text = .ok (digits, rest)) :
    IsWhole digits ∧ text = digits ++ rest := by
  obtain ⟨⟨digits', rest'⟩, hdigits, hzero⟩ := exists_of_bind_eq_ok h
  obtain ⟨hd, rfl⟩ := isDigits_of_readDigits hdigits
  dsimp only at hzero
  split at hzero
  case h_1 => cases hzero
  case h_2 hne =>
    obtain ⟨rfl, rfl⟩ := Prod.mk.inj (Except.ok.inj hzero)
    refine ⟨⟨hd, fun hhead => ?_⟩, rfl⟩
    -- a zero has nothing behind it
    cases digits' with
    | nil => cases hhead
    | cons c more =>
      obtain rfl : c = '0' := Option.some.inj hhead
      cases more with
      | nil => rfl
      | cons d others => exact absurd rfl (hne d others)

theorem exists_of_readFraction {fraction : Option Text}
    (h : readFraction use text = .ok (fraction, rest)) :
    ∃ part, SpellsFraction fraction part ∧ text = part ++ rest := by
  rw [readFraction.eq_def] at h
  split at h
  case h_1 more =>
    obtain ⟨⟨digits, rest'⟩, hdigits, h⟩ := exists_of_bind_eq_ok h
    obtain ⟨rfl, rfl⟩ := Prod.mk.inj (Except.ok.inj h)
    obtain ⟨hd, rfl⟩ := isDigits_of_readDigits hdigits
    exact ⟨_, .some hd, rfl⟩
  case h_2 =>
    obtain ⟨rfl, rfl⟩ := Prod.mk.inj (Except.ok.inj h)
    exact ⟨[], .none, rfl⟩

theorem dropSign_cases {negative : Bool} {unsigned : Text}
    (h : dropSign text = (negative, unsigned)) :
    (negative = true ∧ text = '-' :: unsigned) ∨
      (negative = false ∧ (text = '+' :: unsigned ∨ text = unsigned)) := by
  rw [dropSign.eq_def] at h
  split at h
  all_goals obtain ⟨rfl, rfl⟩ := Prod.mk.inj h
  case h_1 => exact Or.inl ⟨rfl, rfl⟩
  case h_2 => exact Or.inr ⟨rfl, Or.inl rfl⟩
  case h_3 => exact Or.inr ⟨rfl, Or.inr rfl⟩

/-- What follows the letter of an exponent. -/
theorem exists_of_readPower {letter : Char} {power : Int} (hl : letter = 'e' ∨ letter = 'E')
    (h : readPower use text = .ok (power, rest)) :
    ∃ part, SpellsExponent (some power) (letter :: part) ∧ text = part ++ rest := by
  rw [readPower] at h
  obtain ⟨⟨digits, rest'⟩, hdigits, h⟩ := exists_of_bind_eq_ok h
  obtain ⟨rfl, rfl⟩ := Prod.mk.inj (Except.ok.inj h)
  obtain ⟨hd, hunsigned⟩ := isDigits_of_readDigits hdigits
  have hcases := dropSign_cases (rfl : dropSign text = (_, _))
  rcases hcases with ⟨hsign, htext⟩ | ⟨hsign, htext | htext⟩
  · rw [hsign, if_pos rfl]
    exact ⟨_, .minus hl hd, by rw [htext, hunsigned]; rfl⟩
  · rw [hsign, if_neg Bool.false_ne_true]
    exact ⟨_, .plus hl hd, by rw [htext, hunsigned]; rfl⟩
  · rw [hsign, if_neg Bool.false_ne_true]
    exact ⟨_, .unsigned hl hd, by rw [htext, hunsigned]⟩

theorem exists_of_readExponent {exponent : Option Int}
    (h : readExponent use text = .ok (exponent, rest)) :
    ∃ part, SpellsExponent exponent part ∧ text = part ++ rest := by
  have hletter : ∀ {letter more}, letter = 'e' ∨ letter = 'E' →
      readPower use more >>= (fun power => .ok (some power.1, power.2)) = .ok (exponent, rest) →
      ∃ part, SpellsExponent exponent part ∧ letter :: more = part ++ rest := by
    intro letter more hl h
    obtain ⟨⟨power, rest'⟩, hpower, h⟩ := exists_of_bind_eq_ok h
    obtain ⟨rfl, rfl⟩ := Prod.mk.inj (Except.ok.inj h)
    obtain ⟨part, hpart, rfl⟩ := exists_of_readPower hl hpower
    exact ⟨_, hpart, rfl⟩
  rw [readExponent.eq_def] at h
  split at h
  case h_1 => exact hletter (Or.inl rfl) h
  case h_2 => exact hletter (Or.inr rfl) h
  case h_3 =>
    obtain ⟨rfl, rfl⟩ := Prod.mk.inj (Except.ok.inj h)
    exact ⟨[], .none, rfl⟩

theorem exists_of_readUnsigned {negative : Bool} {numeral : Numeral}
    (h : readUnsigned use negative text = .ok (numeral, rest)) :
    numeral.negative = negative ∧ ∃ part, SpellsUnsigned numeral part ∧ text = part ++ rest := by
  obtain ⟨⟨whole, rest₁⟩, hwhole, h⟩ := exists_of_bind_eq_ok h
  obtain ⟨⟨fraction, rest₂⟩, hfraction, h⟩ := exists_of_bind_eq_ok h
  obtain ⟨⟨exponent, rest₃⟩, hexponent, h⟩ := exists_of_bind_eq_ok h
  obtain ⟨rfl, rfl⟩ := Prod.mk.inj (Except.ok.inj h)
  obtain ⟨hw, rfl⟩ := isWhole_of_readWhole hwhole
  obtain ⟨part₂, hf, rfl⟩ := exists_of_readFraction hfraction
  obtain ⟨part₃, he, rfl⟩ := exists_of_readExponent hexponent
  exact ⟨rfl, _, ⟨part₂, part₃, hw, hf, he, rfl⟩, by simp⟩

/-- **What is read as a number is a text of it.** -/
theorem exists_of_read {numeral : Numeral} (h : read use text = .ok (numeral, rest)) :
    ∃ part, Spells numeral part ∧ text = part ++ rest := by
  rw [read.eq_def] at h
  split at h
  case h_1 more =>
    obtain ⟨hnegative, part, hpart, rfl⟩ := exists_of_readUnsigned h
    exact ⟨'-' :: part, ⟨part, hpart, by rw [hnegative, if_pos rfl]⟩, rfl⟩
  case h_2 =>
    obtain ⟨hnegative, part, hpart, rfl⟩ := exists_of_readUnsigned h
    exact ⟨part, ⟨part, hpart, by rw [hnegative, if_neg Bool.false_ne_true]⟩, rfl⟩

end Numeral

/-! ## Strings -/

namespace Quoted

theorem exists_of_push {c : Char} {result : Except Fault (Text × Text)} {value : Text}
    (h : push c result = .ok (value, rest)) :
    ∃ others, result = .ok (others, rest) ∧ value = c :: others := by
  cases result with
  | error => cases h
  | ok pair =>
    obtain ⟨rfl, rfl⟩ := Prod.mk.inj (Except.ok.inj h)
    exact ⟨pair.1, rfl, rfl⟩

/-- **What is read as a string is a code of it**, up to the quote behind it. -/
theorem exists_of_read {value : Text} (h : read use text = .ok (value, rest)) :
    ∃ code, Spells use value code ∧ text = code ++ '"' :: rest := by
  fun_induction read use text generalizing value with
  | case2 more =>
    obtain ⟨rfl, rfl⟩ := Prod.mk.inj (Except.ok.inj h)
    exact ⟨[], .nil, rfl⟩
  | case4 a b c d more unit hunit hskipped ih =>
    obtain ⟨others, hothers, rfl⟩ := exists_of_push h
    obtain ⟨code, hcode, rfl⟩ := ih hothers
    exact ⟨_, .unit hunit (Or.inl hskipped) hcode, rfl⟩
  | case7 a b c d unit hunit huse hlow hhigh e f g h' more low hunit' hlow' ih =>
    obtain ⟨others, hothers, rfl⟩ := exists_of_push h
    obtain ⟨code, hcode, rfl⟩ := ih hothers
    have hkept : use = .kept := by
      cases use with
      | kept => rfl
      | skipped => exact absurd rfl huse
    exact ⟨_, .pair hkept hunit hhigh hunit' hlow' hcode, rfl⟩
  | case10 a b c d more unit hunit huse hlow hhigh ih =>
    obtain ⟨others, hothers, rfl⟩ := exists_of_push h
    obtain ⟨code, hcode, rfl⟩ := ih hothers
    exact ⟨_, .unit hunit (Or.inr ⟨by simpa using hhigh, by simpa using hlow⟩) hcode, rfl⟩
  | case12 letter more hcodes hne c hletter ih =>
    obtain ⟨others, hothers, rfl⟩ := exists_of_push h
    obtain ⟨code, hcode, rfl⟩ := ih hothers
    exact ⟨_, .letter hletter hcode, rfl⟩
  | case16 c more hquote hcodes hunits hletters hend hle ih =>
    obtain ⟨others, hothers, rfl⟩ := exists_of_push h
    obtain ⟨code, hcode, rfl⟩ := ih hothers
    -- a backslash is the first character of an escape, whatever follows it
    have hback : c ≠ '\\' := by
      rintro rfl
      cases hmore : code ++ '"' :: rest with
      | nil => exact hend rfl hmore
      | cons letter more => exact hletters letter more rfl hmore
    exact ⟨_, .plain hquote hback (Char.not_lt.mp hle) hcode, rfl⟩
  | _ => cases h

end Quoted

/-! ## Between two brackets -/

section Items

variable {σ α : Type} {close : Char} {readItem : σ → Text → Except Fault (σ × Text)}
  {step : σ → α → Option σ} {spells : α → Text → Prop} {state state' : σ}

/-- A reader takes nothing but items: what it takes off a text is one, and leads from one state to
the other.  White space around an item belongs to it. -/
structure TakesOnly (readItem : σ → Text → Except Fault (σ × Text)) (step : σ → α → Option σ)
    (spells : α → Text → Prop) : Prop where
  surround : ∀ item part front back, spells item part → IsSpacing front → IsSpacing back →
    spells item (front ++ part ++ back)
  read : ∀ before after text rest, readItem before text = .ok (after, rest) →
    ∃ item part, step before item = some after ∧ spells item part ∧ text = part ++ rest

theorem exists_of_turn_close {first : Bool} (h : turn close first text = .ok (.close rest)) :
    ∃ space, IsSpacing space ∧ text = space ++ close :: rest := by
  obtain ⟨space, hs, htext⟩ := exists_eq_append_dropSpace text
  refine ⟨space, hs, htext.trans ?_⟩
  rw [turn] at h
  split at h
  case h_1 => cases h
  case h_2 c more hdrop =>
    rw [hdrop]
    split at h
    case isTrue hc =>
      obtain ⟨⟩ := h
      rw [hc]
    case isFalse =>
      split at h
      · cases h
      · split at h <;> cases h

/-- An item comes next: it is the first one, or a comma has gone before it. -/
theorem exists_of_turn_item {first : Bool} (h : turn close first text = .ok (.item rest)) :
    ∃ space, IsSpacing space ∧ text = space ++ (if first then rest else ',' :: rest) := by
  obtain ⟨space, hs, htext⟩ := exists_eq_append_dropSpace text
  refine ⟨space, hs, htext.trans ?_⟩
  rw [turn] at h
  split at h
  case h_1 => cases h
  case h_2 c more hdrop =>
    rw [hdrop]
    split at h
    case isTrue => cases h
    case isFalse =>
      split at h
      case isTrue hfirst =>
        obtain ⟨⟩ := h
        rw [if_pos hfirst]
      case isFalse hfirst =>
        split at h
        case isTrue hcomma =>
          obtain ⟨⟩ := h
          rw [if_neg hfirst, hcomma]
        case isFalse => cases h

theorem Listed.prepend {item : α} {others : List α} {front : Text}
    (h : Listed spells (item :: others) text)
    (hfront : ∀ part, spells item part → spells item (front ++ part)) :
    Listed spells (item :: others) (front ++ text) := by
  cases others with
  | nil => exact hfront text h
  | cons next more =>
    obtain ⟨first, last, hfirst, hlast, rfl⟩ := h
    exact ⟨front ++ first, last, hfront first hfirst, hlast, by simp⟩

/-- Behind the first turn: an item, and then the others with a comma before each. -/
theorem exists_of_readItem (htakes : TakesOnly readItem step spells) {steps : Nat} {between : σ}
    {more : Text} (h : readItem state text = .ok (between, more))
    (hmore : readItems close readItem steps false between more = .ok (state', rest)) :
    ∃ item others inner, (item :: others).foldlM step state = some state' ∧
      Listed spells (item :: others) inner ∧ text = inner ++ close :: rest := by
  induction steps generalizing state text between more with
  | zero => cases hmore
  | succ steps ih =>
    obtain ⟨item, part, hstep, hpart, rfl⟩ := htakes.read _ _ _ _ h
    -- white space behind the item belongs to it
    have hback : ∀ space, IsSpacing space → spells item (part ++ space) := fun space hs =>
      htakes.surround item part [] space hpart isSpacing_nil hs
    rw [readItems] at hmore
    obtain ⟨next, hturn, hafter⟩ := exists_of_bind_eq_ok hmore
    cases next with
    | close last =>
      obtain ⟨rfl, rfl⟩ := Prod.mk.inj (Except.ok.inj hafter)
      obtain ⟨space, hs, rfl⟩ := exists_of_turn_close hturn
      refine ⟨item, [], part ++ space, ?_, hback space hs, by simp⟩
      rw [List.foldlM_cons, hstep]
      rfl
    | item last =>
      obtain ⟨space, hs, rfl⟩ := exists_of_turn_item hturn
      obtain ⟨⟨between', more'⟩, hnext, hlast⟩ := exists_of_bind_eq_ok hafter
      obtain ⟨next, others, inner, hothers, hinner, rfl⟩ := ih hnext hlast
      refine ⟨item, next :: others, part ++ space ++ ',' :: inner, ?_,
        ⟨part ++ space, inner, hback space hs, hinner, rfl⟩, by simp⟩
      rw [List.foldlM_cons, hstep]
      exact hothers

/-- **What is read between two brackets is a list of items**, and the state at the end is the one
that they lead to. -/
theorem exists_of_readItems (htakes : TakesOnly readItem step spells) {steps : Nat}
    (h : readItems close readItem steps true state text = .ok (state', rest)) :
    ∃ items inner, items.foldlM step state = some state' ∧ Listed spells items inner ∧
      text = inner ++ close :: rest := by
  cases steps with
  | zero => cases h
  | succ steps =>
    rw [readItems] at h
    obtain ⟨next, hturn, hafter⟩ := exists_of_bind_eq_ok h
    cases next with
    | close last =>
      obtain ⟨rfl, rfl⟩ := Prod.mk.inj (Except.ok.inj hafter)
      obtain ⟨space, hs, rfl⟩ := exists_of_turn_close hturn
      exact ⟨[], space, rfl, hs, rfl⟩
    | item last =>
      obtain ⟨space, hs, rfl⟩ := exists_of_turn_item hturn
      obtain ⟨⟨between, more⟩, hfirst, hmore⟩ := exists_of_bind_eq_ok hafter
      obtain ⟨item, others, inner, hothers, hinner, rfl⟩ :=
        exists_of_readItem htakes hfirst hmore
      have hfront : ∀ part, spells item part → spells item (space ++ part) := by
        intro part hpart
        have hsurround := htakes.surround item part space [] hpart hs isSpacing_nil
        rwa [List.append_nil] at hsurround
      exact ⟨item :: others, space ++ inner, hothers, hinner.prepend hfront, by simp⟩

end Items

/-- What is read as an array is a list of items. -/
theorem exists_of_readArray {α β : Type} {readItem : Text → Except Fault (β × Text)}
    {spells : α → Text → Prop} {result : α → β}
    (hsurround : ∀ item part front back, spells item part → IsSpacing front → IsSpacing back →
      spells item (front ++ part ++ back))
    (hitem : ∀ item text rest, readItem text = .ok (item, rest) →
      ∃ raw part, spells raw part ∧ result raw = item ∧ text = part ++ rest)
    {steps : Nat} {items : List β} (h : readArray readItem steps text = .ok (items, rest)) :
    ∃ raw inner, Listed spells raw inner ∧ raw.map result = items ∧
      text = inner ++ ']' :: rest := by
  have htakes : TakesOnly (readOneMore readItem) (fun read item => some (result item :: read))
      spells := by
    refine ⟨hsurround, fun before after text rest h => ?_⟩
    obtain ⟨⟨item, rest'⟩, hvalue, h⟩ := exists_of_bind_eq_ok h
    obtain ⟨rfl, rfl⟩ := Prod.mk.inj (Except.ok.inj h)
    obtain ⟨raw, part, hpart, rfl, htext⟩ := hitem _ _ _ hvalue
    exact ⟨raw, part, rfl, hpart, htext⟩
  rw [readArray] at h
  obtain ⟨⟨read, rest'⟩, hread, h⟩ := exists_of_bind_eq_ok h
  obtain ⟨rfl, rfl⟩ := Prod.mk.inj (Except.ok.inj h)
  obtain ⟨raw, inner, hfold, hinner, htext⟩ := exists_of_readItems htakes hread
  have hpure : raw.foldl (fun read item => result item :: read) [] = read :=
    Option.some.inj (List.foldlM_pure.symm.trans hfold)
  refine ⟨raw, inner, hinner, ?_, htext⟩
  rw [← hpure, List.foldl_flip_cons_eq_append, List.append_nil, List.reverse_reverse]

/-! ## Members -/

theorem exists_of_readKey {key : Text} (h : readKey use text = .ok (key, rest)) :
    ∃ part, Padded (SpellsString use key) part ∧ text = part ++ rest := by
  obtain ⟨space, hs, htext⟩ := exists_eq_append_dropSpace text
  rw [readKey] at h
  split at h
  case h_1 => cases h
  case h_2 more hdrop =>
    obtain ⟨code, hcode, rfl⟩ := Quoted.exists_of_read h
    refine ⟨space ++ ('"' :: code ++ ['"']), ?_, by rw [htext, hdrop]; simp⟩
    exact ⟨space, _, [], hs, ⟨code, hcode, rfl⟩, isSpacing_nil, by simp⟩
  case h_3 => cases h

theorem exists_of_readColon (h : readColon text = .ok rest) :
    ∃ space, IsSpacing space ∧ text = space ++ ':' :: rest := by
  obtain ⟨space, hs, htext⟩ := exists_eq_append_dropSpace text
  rw [readColon] at h
  split at h
  case h_1 => cases h
  case h_2 more hdrop =>
    obtain ⟨⟩ := h
    exact ⟨space, hs, by rw [htext, hdrop]⟩
  case h_3 => cases h

/-- A key, the colon behind it and a value of any kind are a member. -/
theorem isMember_of_readKey {key more valueText : Text} {kind : Text → Prop}
    (hkey : readKey use text = .ok (key, more)) (hcolon : readColon more = .ok (valueText ++ rest))
    (hvalue : Padded kind valueText) :
    ∃ part, IsMember use key kind part ∧ text = part ++ rest := by
  obtain ⟨keyText, hspells, rfl⟩ := exists_of_readKey hkey
  obtain ⟨space, hs, rfl⟩ := exists_of_readColon hcolon
  refine ⟨keyText ++ space ++ ':' :: valueText, ⟨keyText ++ space, valueText, ?_, hvalue, rfl⟩,
    by simp⟩
  have hsurround := hspells.surround isSpacing_nil hs
  rwa [List.nil_append] at hsurround

/-! ## Values -/

theorem eq_of_readWord {word : Text} (h : readWord word text = .ok rest) : text = word ++ rest := by
  fun_induction readWord word text with
  | case1 text => exact Except.ok.inj h
  | case2 => cases h
  | case3 word text d ih => rw [List.cons_append, ih h]
  | case4 => cases h

/-- A word, a string or a number is a text of its value, which is as it was written. -/
theorem exists_of_readScalar {value : Json} (h : readScalar use text = .ok (value, rest)) :
    ∃ part, Spells use value part ∧ value.merged = value ∧ text = part ++ rest := by
  rw [readScalar.eq_def] at h
  split at h
  case h_1 => cases h
  case h_2 more =>
    obtain ⟨rest', hword, h⟩ := exists_of_bind_eq_ok h
    obtain ⟨rfl, rfl⟩ := Prod.mk.inj (Except.ok.inj h)
    exact ⟨"null".toList, rfl, rfl, by rw [eq_of_readWord hword]; rfl⟩
  case h_3 more =>
    obtain ⟨rest', hword, h⟩ := exists_of_bind_eq_ok h
    obtain ⟨rfl, rfl⟩ := Prod.mk.inj (Except.ok.inj h)
    exact ⟨"true".toList, rfl, rfl, by rw [eq_of_readWord hword]; rfl⟩
  case h_4 more =>
    obtain ⟨rest', hword, h⟩ := exists_of_bind_eq_ok h
    obtain ⟨rfl, rfl⟩ := Prod.mk.inj (Except.ok.inj h)
    exact ⟨"false".toList, rfl, rfl, by rw [eq_of_readWord hword]; rfl⟩
  case h_5 more =>
    obtain ⟨⟨string, rest'⟩, hstring, h⟩ := exists_of_bind_eq_ok h
    obtain ⟨rfl, rfl⟩ := Prod.mk.inj (Except.ok.inj h)
    obtain ⟨code, hcode, rfl⟩ := Quoted.exists_of_read hstring
    exact ⟨'"' :: code ++ ['"'], ⟨code, hcode, rfl⟩, rfl, by simp⟩
  case h_6 c more _ _ _ _ =>
    split at h
    case isFalse => cases h
    case isTrue =>
      obtain ⟨⟨numeral, rest'⟩, hnumeral, h⟩ := exists_of_bind_eq_ok h
      obtain ⟨number, hnumber, h⟩ := exists_of_bind_eq_ok h
      obtain ⟨rfl, rfl⟩ := Prod.mk.inj (Except.ok.inj h)
      obtain ⟨part, hpart, htext⟩ := Numeral.exists_of_read hnumeral
      exact ⟨part, ⟨numeral, hpart, hnumber⟩, rfl, htext⟩

/-- What the values in as many steps stand for, with white space in front of them. -/
def ReadsOnlyPadded (use : Use) (steps : Nat) : Prop :=
  ∀ {value : Json} {text rest : Text}, readWithin use steps text = .ok (value, rest) →
    ∃ raw part, Padded (Spells use raw) part ∧ raw.merged = value ∧ text = part ++ rest

theorem exists_of_readWithin_array {steps : Nat} {items : List Json}
    (hitem : ReadsOnlyPadded use steps)
    (h : readArray (readWithin use steps) (steps + 1) text = .ok (items, rest)) :
    ∃ raw inner, SpellsItems use raw inner ∧ mergedItems raw = items ∧
      text = inner ++ ']' :: rest := by
  obtain ⟨raw, inner, hinner, hitems, htext⟩ :=
    exists_of_readArray (fun _ _ _ _ hpart hf hb => Padded.surround hpart hf hb)
      (fun _ _ _ hread => hitem hread) h
  exact ⟨raw, inner, spellsItems_iff_listed.mpr hinner, by rw [mergedItems_eq_map, hitems], htext⟩

theorem exists_of_readWithin_object {steps : Nat} {members : List (Text × Json)}
    (hvalue : ReadsOnlyPadded use steps)
    (h : readItems '\x7d' (readMember use (readWithin use steps)) (steps + 1) true [] text =
      .ok (members, rest)) :
    ∃ raw inner, SpellsMembers use raw inner ∧ mergedMembers raw [] = members ∧
      text = inner ++ '\x7d' :: rest := by
  have htakes : TakesOnly (readMember use (readWithin use steps))
      (fun seen member => some (putMember member.1 member.2.merged seen)) (SpellsMember use) := by
    constructor
    · intro member part front back hpart hf hb
      exact hpart.surround hf hb
    · intro before after text rest h
      obtain ⟨⟨key, afterKey⟩, hkey, h⟩ := exists_of_bind_eq_ok h
      obtain ⟨afterColon, hcolon, h⟩ := exists_of_bind_eq_ok h
      obtain ⟨⟨value, rest'⟩, hread, h⟩ := exists_of_bind_eq_ok h
      obtain ⟨rfl, rfl⟩ := Prod.mk.inj (Except.ok.inj h)
      obtain ⟨raw, valueText, hpadded, rfl, rfl⟩ := hvalue hread
      obtain ⟨part, hpart, htext⟩ := isMember_of_readKey hkey hcolon hpadded
      exact ⟨(key, raw), part, rfl, hpart, htext⟩
  obtain ⟨raw, inner, hfold, hinner, htext⟩ := exists_of_readItems htakes h
  refine ⟨raw, inner, spellsMembers_iff_listed.mpr hinner, ?_, htext⟩
  rw [mergedMembers_eq_foldl]
  exact Option.some.inj (List.foldlM_pure.symm.trans hfold)

theorem readsOnlyPadded (use : Use) (steps : Nat) : ReadsOnlyPadded use steps := by
  induction steps with
  | zero => exact fun h => by cases h
  | succ steps ih =>
    intro value text rest h
    obtain ⟨space, hs, htext⟩ := exists_eq_append_dropSpace text
    -- it is enough to say what stands behind the white space
    suffices hcore : ∃ raw core, Spells use raw core ∧ raw.merged = value ∧
        dropSpace text = core ++ rest by
      obtain ⟨raw, core, hspells, hmerged, hdrop⟩ := hcore
      refine ⟨raw, space ++ core, ⟨space, core, [], hs, hspells, isSpacing_nil, by simp⟩, hmerged,
        ?_⟩
      rw [htext, hdrop, List.append_assoc]
    rw [readWithin] at h
    split at h
    case h_1 more hdrop =>
      obtain ⟨⟨items, rest'⟩, hitems, h⟩ := exists_of_bind_eq_ok h
      obtain ⟨rfl, rfl⟩ := Prod.mk.inj (Except.ok.inj h)
      obtain ⟨raw, inner, hinner, rfl, rfl⟩ := exists_of_readWithin_array ih hitems
      exact ⟨.array raw, '[' :: inner ++ [']'], ⟨inner, hinner, rfl⟩, rfl, by rw [hdrop]; simp⟩
    case h_2 more hdrop =>
      obtain ⟨⟨members, rest'⟩, hmembers, h⟩ := exists_of_bind_eq_ok h
      obtain ⟨rfl, rfl⟩ := Prod.mk.inj (Except.ok.inj h)
      obtain ⟨raw, inner, hinner, rfl, rfl⟩ := exists_of_readWithin_object ih hmembers
      exact ⟨.object raw, '\x7b' :: inner ++ ['\x7d'], ⟨inner, hinner, rfl⟩, rfl,
        by rw [hdrop]; simp⟩
    case h_3 =>
      obtain ⟨core, hcore, hmerged, hdrop⟩ := exists_of_readScalar h
      exact ⟨value, core, hcore, hmerged, hdrop⟩

/-- **What is read is a value of the grammar**, up to what follows it. -/
theorem exists_of_read {value : Json} (h : read use text = .ok (value, rest)) :
    ∃ raw part, Padded (Spells use raw) part ∧ raw.merged = value ∧ text = part ++ rest :=
  readsOnlyPadded use _ h

theorem isSpacing_of_readEnd (h : readEnd text = .ok ()) : IsSpacing text := by
  obtain ⟨space, hs, htext⟩ := exists_eq_append_dropSpace text
  rw [readEnd] at h
  split at h
  case h_1 hdrop =>
    rw [htext, hdrop, List.append_nil]
    exact hs
  case h_2 => cases h

/-- **The texts that are a value are those of the grammar.** -/
theorem parse_eq_ok_iff {value : Json} :
    parse text = .ok value ↔ ∃ raw, Padded (Spells .kept raw) text ∧ raw.merged = value := by
  constructor
  · intro h
    obtain ⟨⟨value', rest⟩, hread, h⟩ := exists_of_bind_eq_ok h
    obtain ⟨⟨⟩, hend, h⟩ := exists_of_bind_eq_ok h
    obtain rfl : value' = value := Except.ok.inj h
    obtain ⟨raw, part, hpart, hmerged, rfl⟩ := exists_of_read hread
    have hpadded := hpart.surround isSpacing_nil (isSpacing_of_readEnd hend)
    exact ⟨raw, hpadded, hmerged⟩
  · rintro ⟨raw, hpadded, rfl⟩
    exact parse_of_padded hpadded

/-! ## Values of one kind -/

theorem exists_of_readString {value : Text} (h : readString text = .ok (value, rest)) :
    ∃ part, Padded (Spells .kept (.string value)) part ∧ text = part ++ rest :=
  exists_of_readKey (readString_eq_ok_iff.mp h)

theorem exists_of_readStrings {values : List Text} (h : readStrings text = .ok (values, rest)) :
    ∃ part, Padded (Spells .kept (.array (values.map .string))) part ∧ text = part ++ rest := by
  rw [readStrings] at h
  split at h
  case h_1 more hdrop =>
    obtain ⟨raw, inner, hinner, hvalues, rfl⟩ :=
      exists_of_readArray (fun _ _ _ _ hpart hf hb => Padded.surround hpart hf hb)
        (fun value _ _ hread => by
          obtain ⟨part, hpart, hmore⟩ := exists_of_readString hread
          exact ⟨value, part, hpart, rfl, hmore⟩)
        h
    rw [List.map_id'] at hvalues
    subst hvalues
    have hlisted : Listed (fun item => Padded (Spells .kept item)) (raw.map Json.string) inner :=
      (listed_map Json.string).mpr hinner
    obtain ⟨part, hpart, htext⟩ := exists_enclosed hlisted hdrop
    exact ⟨part, hpart.mono fun core hcore => spells_array_iff_enclosed.mpr hcore, htext⟩
  case h_2 => cases h

end FilterQuery.Json
