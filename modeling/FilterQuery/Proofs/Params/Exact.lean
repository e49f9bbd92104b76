import FilterQuery.Proofs.Params.Number
import FilterQuery.Proofs.QueryString.Growth

/-!
# Numbers are read exactly

A number that is asked for by name is what the last parameter of this name says, and nothing else
has a part in it.  There is no number exactly where no parameter has the name.  Otherwise the value
is a count, and then it is read as the number that its digits stand for, or the name is refused with
its value.  A number too great for 64 bits is refused like any other text; it is not read as what is
left of it in 64 bits.

What a limit, an offset or a page writes into a URL for a number is its decimal text as it is,
without codes, and this is a count again, with blanks around it or not.

* `writeOne_topParameter`, `writeOne_skipParameter`, `Page.extension_eq`: what a URL gets for a
  number.
* `run_number?_of_isLast`: reading a number where a parameter has its name.
* `Params.numbers_read_exactly`: which values are read as which numbers.
-/

namespace FilterQuery

/-! ## Numbers in a URL -/

theorem Percent.encode_of_unreserved {text : Text} (h : ∀ c ∈ text, unreserved c = true) :
    encode text = text := by
  induction text with
  | nil => rfl
  | cons c rest ih =>
    rw [encode_cons, ih fun d hd => h d (List.mem_cons_of_mem _ hd), encodeChar,
      if_pos (h c List.mem_cons_self), List.singleton_append]

/-- The decimal text of a number needs no codes. -/
theorem Percent.encode_countText (n : UInt64) : encode (countText n) = countText n := by
  obtain ⟨-, hdigits, -⟩ := Text.isNumeral_iff.mp (Text.isNumeral_ofNat n.toNat)
  refine encode_of_unreserved fun c hc => ?_
  have hdigit : c.isDigit = true := List.all_eq_true.mp hdigits c hc
  simp [unreserved, Char.isAlphanum, hdigit]

namespace QueryString

theorem write_singleton (parameter : Text × Text) : write [parameter] = writeOne parameter := by
  simp [write]

theorem extension_singleton (url : Text) (parameter : Text × Text) :
    extension url [parameter] = joinMark url :: writeOne parameter := by
  rw [extension_of_ne_nil (List.cons_ne_nil _ _), write_singleton]

end QueryString

open QueryString

theorem writeOne_topParameter (n : UInt64) :
    writeOne (topParameter n) = "$top=".toList ++ countText n := by
  rw [writeOne, topParameter, Percent.encode_countText]
  rfl

theorem writeOne_skipParameter (n : UInt64) :
    writeOne (skipParameter n) = "$skip=".toList ++ countText n := by
  rw [writeOne, skipParameter, Percent.encode_countText]
  rfl

/-- A page writes its size behind its offset, if there are rows before it. -/
theorem Page.extension_eq (page : Page) (url : Text) :
    page.extension url = joinMark url ::
      ((if 0 < page.offset then "$skip=".toList ++ countText page.offset ++ ['&'] else []) ++
        ("$top=".toList ++ countText page.size ++ "&$count=true".toList)) := by
  have hlast : write [topParameter page.size, countParameter] =
      "$top=".toList ++ countText page.size ++ "&$count=true".toList := by
    have htwo : write ([topParameter page.size] ++ [countParameter]) =
        write [topParameter page.size] ++ '&' :: write [countParameter] :=
      write_append (List.cons_ne_nil _ _) (List.cons_ne_nil _ _)
    rw [List.singleton_append, write_singleton, write_singleton, writeOne_topParameter] at htwo
    exact htwo
  rw [extension, parameters, extension_of_ne_nil (by simp)]
  split
  case isTrue =>
    rw [write_append (List.cons_ne_nil _ _) (List.cons_ne_nil _ _), write_singleton,
      writeOne_skipParameter, hlast]
    simp
  case isFalse =>
    rw [List.nil_append, hlast, List.nil_append]

/-! ## The number under a name -/

namespace Params

variable {params : List (Text × Text)} {key raw : Text}

theorem last?_eq_none_iff : last? params key = none ↔ ∀ param ∈ params, param.1 ≠ key := by
  simp [last?]

theorem exists_isLast (h : ∃ param ∈ params, param.1 = key) : ∃ raw, IsLast params key raw := by
  cases hlast : last? params key with
  | none =>
    obtain ⟨param, hmem, hkey⟩ := h
    exact absurd hkey (last?_eq_none_iff.mp hlast param hmem)
  | some raw => exact ⟨raw, last?_eq_some_iff.mp hlast⟩

theorem isLast_singleton (key raw : Text) : IsLast [(key, raw)] key raw :=
  ⟨[], [], rfl, by simp⟩

/-- Where a parameter has the name, its value is the number or is refused. -/
theorem run_number?_of_isLast (h : IsLast params key raw) :
    (number? params key).run =
      match Text.readCount? (Text.trim raw) with
      | some n => ⟨.ok (some n), []⟩
      | none => ⟨.error (.invalidNumber key raw), [.numberRejected key raw]⟩ := by
  have hlast := last?_eq_some_iff.mpr h
  cases hread : Text.readCount? (Text.trim raw) with
  | none =>
    have hrejects := rejected?_eq_some_iff.mpr ⟨h, Text.readCount?_trim_eq_none_iff.mp hread⟩
    rw [run_number?, hrejects]
  | some n =>
    have hcount : count? params key = some n := by
      rw [count?, hlast, Option.bind_some, hread]
    have hrejects : rejected? params key = none := by
      rw [rejected?_eq_none_iff, hcount, hlast]
      rfl
    rw [run_number?, hrejects, hcount]

theorem value_number?_eq_some_iff (h : IsLast params key raw) {n : UInt64} :
    (number? params key).run.value = .ok (some n) ↔ Text.SpellsCount raw n.toNat := by
  rw [run_number?_of_isLast h, ← Text.readCount?_trim_eq_some_iff]
  cases Text.readCount? (Text.trim raw) with
  | none => exact iff_of_false (by simp) (by simp)
  | some m => simp

theorem value_number?_eq_error_iff (h : IsLast params key raw) :
    (number? params key).run.value = .error (.invalidNumber key raw) ↔
      ∀ n, ¬ Text.SpellsCount raw n := by
  rw [run_number?_of_isLast h, ← Text.readCount?_trim_eq_none_iff]
  cases Text.readCount? (Text.trim raw) with
  | none => exact iff_of_true rfl rfl
  | some m => exact iff_of_false (by simp) (by simp)

theorem value_number?_eq_none_iff :
    (number? params key).run.value = .ok none ↔ ∀ param ∈ params, param.1 ≠ key := by
  rw [← last?_eq_none_iff]
  cases hlast : last? params key with
  | none => exact iff_of_true (by rw [number?, hlast]; rfl) rfl
  | some raw =>
    refine iff_of_false ?_ (by simp)
    rw [run_number?_of_isLast (last?_eq_some_iff.mp hlast)]
    split <;> simp

/-- **Numbers are read exactly.**  There is no number under a name exactly where no parameter has
the name.  Otherwise the last parameter of the name decides by itself: a number is read exactly
where its value is a count of it, which is decimal digits below `2 ^ 64` with at most one plus sign
in front of them and blanks around, and any other value is refused.  What a limit, an offset and a
page write for a number is therefore read as the number, whatever blanks are around it, and digits
that stand for `2 ^ 64` or more are refused and not read as another number. -/
theorem numbers_read_exactly (params : List (Text × Text)) (key : Text) :
    ((number? params key).run.value = .ok none ↔ ∀ param ∈ params, param.1 ≠ key) ∧
    ((∃ param ∈ params, param.1 = key) → ∃ raw, IsLast params key raw ∧
      (number? params key).run = (number? [(key, raw)] key).run ∧
      (∀ n : UInt64,
        (number? params key).run.value = .ok (some n) ↔ Text.SpellsCount raw n.toNat) ∧
      ((number? params key).run.value = .error (.invalidNumber key raw) ↔
        ∀ n, ¬ Text.SpellsCount raw n)) ∧
    (∀ (n : UInt64) (url : Text) (page : Page),
      extension url [topParameter n] = joinMark url :: ("$top=".toList ++ countText n) ∧
      extension url [skipParameter n] = joinMark url :: ("$skip=".toList ++ countText n) ∧
      page.extension url = joinMark url ::
        ((if 0 < page.offset then "$skip=".toList ++ countText page.offset ++ ['&'] else []) ++
          ("$top=".toList ++ countText page.size ++ "&$count=true".toList))) ∧
    (∀ (n : UInt64) (before after : Text), (∀ c ∈ before, Text.isBlank c = true) →
      (∀ c ∈ after, Text.isBlank c = true) → IsLast params key (before ++ countText n ++ after) →
      (number? params key).run.value = .ok (some n)) ∧
    ∀ (n : Nat) (before sign digits after : Text), (∀ c ∈ before, Text.isBlank c = true) →
      (∀ c ∈ after, Text.isBlank c = true) → (sign = [] ∨ sign = ['+']) →
      Text.IsNumeral digits n → UInt64.size ≤ n →
      IsLast params key (before ++ (sign ++ digits) ++ after) →
      (number? params key).run.value =
        .error (.invalidNumber key (before ++ (sign ++ digits) ++ after)) := by
  refine ⟨value_number?_eq_none_iff, ?_, ?_, ?_, ?_⟩
  · intro hkey
    obtain ⟨raw, hlast⟩ := exists_isLast hkey
    refine ⟨raw, hlast, ?_, fun n => value_number?_eq_some_iff hlast,
      value_number?_eq_error_iff hlast⟩
    rw [run_number?_of_isLast hlast, run_number?_of_isLast (isLast_singleton key raw)]
  · intro n url page
    rw [extension_singleton, extension_singleton, writeOne_topParameter, writeOne_skipParameter]
    exact ⟨rfl, rfl, page.extension_eq url⟩
  · intro n before after hbefore hafter hlast
    refine (value_number?_eq_some_iff hlast).mpr ⟨before, [], countText n, after, rfl, hbefore,
      hafter, Or.inl rfl, Text.isNumeral_ofNat n.toNat, n.toNat_lt_size⟩
  · intro n before sign digits after hbefore hafter hsign hdigits hsize hlast
    rw [run_number?_of_isLast hlast, Text.trim_signed hsign hdigits hbefore hafter,
      Text.readCount?_eq_none_of_size_le hsign hdigits hsize]

/-- A name with a value before its last one, beside a name in other letters; the greatest number,
among blanks that are not ASCII; and the number behind it, with a plus sign and a zero. -/
theorem numbers_read_exactly_edge :
    let page := "page".toList
    let params := [(page, "x".toList), (page, " +007".toList), ("Page".toList, "1".toList)]
    let padded := "\u0085\u3000".toList ++ countText 0xFFFFFFFFFFFFFFFF ++ [' ']
    let digits := "018446744073709551616".toList
    let beyond := [] ++ (['+'] ++ digits) ++ ['\n']
    ((∃ param ∈ params, param.1 = page) ∧ ∃ raw, IsLast params page raw ∧
      (number? params page).run = (number? [(page, raw)] page).run) ∧
    (IsLast [(page, padded)] page padded ∧
      (number? [(page, padded)] page).run.value = .ok (some 0xFFFFFFFFFFFFFFFF)) ∧
    (Text.IsNumeral digits UInt64.size ∧ IsLast [(page, beyond)] page beyond ∧
      (number? [(page, beyond)] page).run.value = .error (.invalidNumber page beyond)) := by
  intro page params padded digits beyond
  have hkey : ∃ param ∈ params, param.1 = page := ⟨_, List.mem_cons_self, rfl⟩
  have hdigits : Text.IsNumeral digits UInt64.size := Text.isNumeral_iff.mpr (by decide +kernel)
  obtain ⟨raw, hlast, hsame, -⟩ := (numbers_read_exactly params page).2.1 hkey
  have hblank : ∀ text : Text, text.all Text.isBlank = true → ∀ c ∈ text, Text.isBlank c = true :=
    fun _ => List.all_eq_true.mp
  have hread := (numbers_read_exactly [(page, padded)] page).2.2.2.1 0xFFFFFFFFFFFFFFFF
    "\u0085\u3000".toList [' '] (hblank _ (by decide)) (hblank _ (by decide))
    (isLast_singleton page padded)
  have hrefused := (numbers_read_exactly [(page, beyond)] page).2.2.2.2 UInt64.size [] ['+'] digits
    ['\n'] (hblank _ (by decide)) (hblank _ (by decide)) (Or.inr rfl) hdigits (Nat.le_refl _)
    (isLast_singleton page beyond)
  exact ⟨⟨hkey, raw, hlast, hsame⟩, ⟨isLast_singleton page padded, hread⟩, hdigits,
    isLast_singleton page beyond, hrefused⟩

end Params

end FilterQuery
