import FilterQuery.Proofs.Query.Reachable

/-!
# The shape of a URL

Nothing that is put into a query can break its URL.  Behind the endpoint stands nothing, or one mark
and then pieces with `&` between them, each a name that the receiver knows, an equals sign and a
code.  The mark is the only character of the query string that depends on the endpoint, and the only
place where a question mark can stand.

* `QueryString.IsPiece`, `QueryString.WellFormed`: the shape, said without the writer.
* `QueryString.wellFormed_extension`: what parameters append has it.
* `QueryString.WellFormed.question_mem_iff` and the lemmas around it: what follows from it.
* `Query.Reachable.wellFormed`: the URL of every query has it, and only ever grows.
-/

namespace FilterQuery

namespace QueryString

/-- A name that is known, an equals sign and a code. -/
def IsPiece (piece : Text) : Prop :=
  ∃ name ∈ Query.names, ∃ value, Percent.IsCode value ∧ piece = name ++ '=' :: value

/-- Nothing, or a mark and one or more pieces. -/
def WellFormed (endpoint suffix : Text) : Prop :=
  suffix = [] ∨ ∃ pieces, pieces ≠ [] ∧ (∀ piece ∈ pieces, IsPiece piece) ∧
    suffix = (if '?' ∈ endpoint then '&' else '?') :: List.intercalate ['&'] pieces

theorem wellFormed_extension (endpoint : Text) {parameters : List (Text × Text)}
    (h : ∀ parameter ∈ parameters, parameter.1 ∈ Query.names) :
    WellFormed endpoint (extension endpoint parameters) := by
  by_cases hne : parameters = []
  · subst hne
    exact Or.inl rfl
  · refine Or.inr ⟨parameters.map writeOne, by simpa using hne, ?_, extension_of_ne_nil hne⟩
    intro piece hp
    obtain ⟨parameter, hm, rfl⟩ := List.mem_map.mp hp
    exact ⟨parameter.1, h parameter hm, _, Percent.isCode_encode parameter.2, rfl⟩

/-! ## The characters of a query string -/

/-- The characters that can stand in a piece. -/
def pieceAlphabet : Text :=
  '$' :: '=' :: Percent.alphabet

/-- They are ASCII, neither of them is a mark, and a URL can hold them. -/
theorem ascii_of_mem_pieceAlphabet :
    ∀ c ∈ pieceAlphabet, c.toNat < 128 ∧ c ∉ ['?', '&', ' ', '"', '#'] := by
  have hall : pieceAlphabet.all
      (fun c => c.toNat < 128 ∧ c ∉ ['?', '&', ' ', '"', '#']) = true := by
    decide +kernel
  exact fun c hc => of_decide_eq_true (List.all_eq_true.mp hall c hc)

theorem mem_pieceAlphabet_of_mem_names {name : Text} (h : name ∈ Query.names) :
    ∀ c ∈ name, c ∈ pieceAlphabet := by
  have hall : Query.names.all (List.all · pieceAlphabet.contains) = true := by decide +kernel
  intro c hc
  exact List.contains_iff_mem.mp
    (List.all_eq_true.mp (List.all_eq_true.mp hall name h) c hc)

theorem IsPiece.mem_pieceAlphabet {piece : Text} (h : IsPiece piece) :
    ∀ c ∈ piece, c ∈ pieceAlphabet := by
  obtain ⟨name, hname, value, hvalue, rfl⟩ := h
  intro c hc
  rcases List.mem_append.mp hc with hc | hc
  · exact mem_pieceAlphabet_of_mem_names hname c hc
  · rcases List.mem_cons.mp hc with rfl | hc
    · exact List.mem_cons_of_mem _ List.mem_cons_self
    · exact List.mem_cons_of_mem _ (List.mem_cons_of_mem _ (hvalue.mem_alphabet c hc))

theorem IsPiece.ampersand_notMem {piece : Text} (h : IsPiece piece) : '&' ∉ piece := by
  intro hm
  exact (ascii_of_mem_pieceAlphabet '&' (h.mem_pieceAlphabet '&' hm)).2 (by simp)

theorem IsPiece.ne_nil {piece : Text} (h : IsPiece piece) : piece ≠ [] := by
  obtain ⟨name, -, value, -, rfl⟩ := h
  simp

namespace WellFormed

variable {endpoint suffix : Text}

theorem mem_tail (h : WellFormed endpoint suffix) :
    ∀ c ∈ suffix.tail, c = '&' ∨ c ∈ pieceAlphabet := by
  intro c hc
  rcases h with rfl | ⟨pieces, -, hp, rfl⟩
  · simp at hc
  · rcases Text.mem_intercalate hc with hc | ⟨piece, hm, hc⟩
    · exact Or.inl hc
    · exact Or.inr ((hp piece hm).mem_pieceAlphabet c hc)

/-- A question mark can only be the mark. -/
theorem question_notMem_tail (h : WellFormed endpoint suffix) : '?' ∉ suffix.tail := by
  intro hm
  rcases h.mem_tail '?' hm with heq | hq
  · exact absurd heq (by decide)
  · exact (ascii_of_mem_pieceAlphabet '?' hq).2 (by simp)

/-- There is a question mark exactly where it is needed. -/
theorem question_mem_iff (h : WellFormed endpoint suffix) :
    '?' ∈ suffix ↔ suffix ≠ [] ∧ '?' ∉ endpoint := by
  have htail := h.question_notMem_tail
  rcases h with rfl | ⟨pieces, -, -, rfl⟩
  · simp
  · rw [List.tail_cons] at htail
    by_cases he : '?' ∈ endpoint
    · simp [he, htail]
    · simp [he]

/-- No piece is empty. -/
theorem nil_notMem_pieces (h : WellFormed endpoint suffix) (hne : suffix ≠ []) :
    [] ∉ Text.pieces '&' suffix.tail := by
  rcases h with rfl | ⟨pieces, hpieces, hp, rfl⟩
  · exact absurd rfl hne
  · rw [List.tail_cons, Text.pieces_intercalate hpieces]
    · exact fun hm => (hp [] hm).ne_nil rfl
    · exact fun piece hm => (hp piece hm).ampersand_notMem

/-- Neither mark stands at the end. -/
theorem ne_of_mem_getLast? (h : WellFormed endpoint suffix) :
    ∀ c ∈ suffix.getLast?, c ≠ '?' ∧ c ≠ '&' := by
  intro c hc
  rcases h with rfl | ⟨pieces, hpieces, hp, rfl⟩
  · simp at hc
  rcases List.eq_nil_or_concat pieces with rfl | ⟨front, last, rfl⟩
  · exact absurd rfl hpieces
  rw [List.concat_eq_append] at hp hc
  have hlast := hp last (by simp)
  obtain ⟨before, hjoin⟩ := Text.exists_intercalate_concat '&' front last
  rw [hjoin, ← List.cons_append, List.getLast?_append,
    List.getLast?_eq_some_getLast hlast.ne_nil] at hc
  obtain rfl : last.getLast hlast.ne_nil = c := Option.some.inj hc
  have hascii := ascii_of_mem_pieceAlphabet _
    (hlast.mem_pieceAlphabet _ (List.getLast_mem hlast.ne_nil))
  simp only [List.mem_cons, not_or] at hascii
  exact ⟨hascii.2.1, hascii.2.2.1⟩

/-- Every character is ASCII and has no other use in a URL. -/
theorem ascii (h : WellFormed endpoint suffix) :
    ∀ c ∈ suffix, c.toNat < 128 ∧ c ∉ [' ', '"', '#'] := by
  intro c hc
  have htail := h.mem_tail c
  rcases h with rfl | ⟨pieces, -, -, rfl⟩
  · simp at hc
  · rcases List.mem_cons.mp hc with rfl | hc
    · split <;> decide
    · rcases htail hc with rfl | hm
      · decide
      · have hascii := ascii_of_mem_pieceAlphabet c hm
        simp only [List.mem_cons, not_or] at hascii ⊢
        exact ⟨hascii.1, hascii.2.2.2⟩

end WellFormed

end QueryString

namespace Query

variable {endpoint : Text} {query : Query}

/-- **The URL of every query is well formed, and a step only appends to it.**  Whatever texts have
gone into it, a question mark stands where the query string begins and nowhere else in it, no piece
is empty, no mark is left at the end, and nothing that a URL cannot hold has got in. -/
theorem Reachable.wellFormed (h : Reachable endpoint query) :
    (∀ step, query.url <+: (query.apply step).value.url) ∧
    ∃ suffix, query.url = endpoint ++ suffix ∧
      QueryString.WellFormed endpoint suffix ∧
      '?' ∉ suffix.tail ∧
      ('?' ∈ suffix ↔ suffix ≠ [] ∧ '?' ∉ endpoint) ∧
      (suffix ≠ [] → [] ∉ Text.pieces '&' suffix.tail) ∧
      (∀ mark ∈ suffix.getLast?, mark ≠ '?' ∧ mark ≠ '&') ∧
      ∀ c ∈ suffix, c.toNat < 128 ∧ c ∉ [' ', '"', '#'] := by
  refine ⟨url_prefix_url_apply query, ?_⟩
  obtain ⟨parameters, hp⟩ := h.represents
  have hwf := QueryString.wellFormed_extension endpoint hp.fst_mem
  exact ⟨_, hp.url_eq, hwf, hwf.question_notMem_tail, hwf.question_mem_iff,
    hwf.nil_notMem_pieces, hwf.ne_of_mem_getLast?, hwf.ascii⟩

/-- Marks and letters beyond ASCII in an expression, an empty expression and an empty property. -/
theorem wellFormed_marks :
    let query := ((new "/api".toList).run
      [.filter (.expression "a&b?ü".toList), .filter (.expression []), .orderByDesc []]).value
    Reachable "/api".toList query ∧
    QueryString.WellFormed "/api".toList "?$where=a%26b%3F%C3%BC&$orderby=%20desc".toList ∧
    query.url = "/api".toList ++ "?$where=a%26b%3F%C3%BC&$orderby=%20desc".toList := by
  intro query
  have hreach : Reachable "/api".toList query := Reachable.new.run _
  have hurl : query.url =
      "/api".toList ++ "?$where=a%26b%3F%C3%BC&$orderby=%20desc".toList := by
    decide +kernel
  obtain ⟨-, suffix, hsuffix, hwf, -⟩ := hreach.wellFormed
  obtain rfl := List.append_cancel_left (hsuffix.symm.trans hurl)
  exact ⟨hreach, hwf, hurl⟩

end Query

end FilterQuery
