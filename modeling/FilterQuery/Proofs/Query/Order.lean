import FilterQuery.Proofs.Query.Reachable

/-!
# Adding to an open order

A descending sort while an order is open is meant to make the value of the order longer, the last
parameter named `$orderby`.  What it does make longer is the last parameter.  The two are the same
exactly when no other parameter has been appended since the order was.

* `extendNamed`: more text behind the last value of a name, which is what is meant.
* `extendNamed_concat_self`, `extendNamed_concat_of_ne`: where it is the last value, and where not.
* `Query.Reachable.orderByDesc_reads_iff`: what a descending sort does, and when that is what is
  meant.
-/

namespace FilterQuery

/-- Parameters with more text behind the value of the last one of a name. -/
def extendNamed (name more : Text) : List (Text × Text) → List (Text × Text)
  | [] => []
  | parameter :: others =>
    if name ∈ others.map Prod.fst then
      parameter :: extendNamed name more others
    else if parameter.1 = name then
      (parameter.1, parameter.2 ++ more) :: others
    else
      parameter :: others

/-- The last parameter is the one to make longer when it has the name. -/
theorem extendNamed_concat_self (name more : Text) (front : List (Text × Text)) (value : Text) :
    extendNamed name more (front ++ [(name, value)]) = front ++ [(name, value ++ more)] := by
  induction front with
  | nil => simp [extendNamed]
  | cons parameter rest ih =>
    rw [List.cons_append, extendNamed, if_pos (by simp), ih, List.cons_append]

/-- A last parameter of another name stays as it is. -/
theorem extendNamed_concat_of_ne {name : Text} (more : Text) (front : List (Text × Text))
    {parameter : Text × Text} (h : parameter.1 ≠ name) :
    extendNamed name more (front ++ [parameter]) = extendNamed name more front ++ [parameter] := by
  induction front with
  | nil => simp [extendNamed, h]
  | cons first rest ih =>
    have hmem : name ∈ (rest ++ [parameter]).map Prod.fst ↔ name ∈ rest.map Prod.fst := by
      simp [Ne.symm h]
    rw [List.cons_append, extendNamed, extendNamed, ih]
    by_cases hrest : name ∈ rest.map Prod.fst
    · rw [if_pos (hmem.mpr hrest), if_pos hrest, List.cons_append]
    · rw [if_neg (mt hmem.mp hrest), if_neg hrest]
      split <;> rfl

/-- Making the last value longer is making the last value of a name longer just when it has that
name. -/
theorem extendNamed_concat_eq_iff {name more : Text} (hmore : more ≠ [])
    (front : List (Text × Text)) (last value : Text) :
    extendNamed name more (front ++ [(last, value)]) = front ++ [(last, value ++ more)] ↔
      last = name := by
  constructor
  · intro h
    by_cases hname : last = name
    · exact hname
    · have hne : (last, value).1 ≠ name := hname
      rw [extendNamed_concat_of_ne more front hne] at h
      have hlast := List.append_inj_right' h rfl
      simp only [List.cons.injEq, Prod.mk.injEq, true_and, and_true] at hlast
      exact absurd (List.self_eq_append_right.mp hlast) hmore
  · rintro rfl
    exact extendNamed_concat_self last more front value

namespace Query

variable {endpoint : Text} {query : Query}

/-- **A descending sort while an order is open makes the last parameter longer**, and leaves the
others as they are.  This is the open order exactly when the last parameter is an order. -/
theorem Reachable.orderByDesc_reads_iff (h : Reachable endpoint query)
    (hopen : query.openOrder.isSome) (property : Text) :
    ∃ suffix more front name value,
      query.url = endpoint ++ suffix ∧
      (query.orderByDesc property).url = endpoint ++ (suffix ++ more) ∧
      QueryString.Reads endpoint suffix (front ++ [(name, value)]) ∧
      "$orderby".toList ∈ (front ++ [(name, value)]).map Prod.fst ∧
      QueryString.Reads endpoint (suffix ++ more)
        (front ++ [(name, value ++ Sort.continuation property)]) ∧
      (QueryString.Reads endpoint (suffix ++ more)
          (extendNamed "$orderby".toList (Sort.continuation property) (front ++ [(name, value)])) ↔
        name = "$orderby".toList) := by
  obtain ⟨parameters, hbefore⟩ := h.represents
  obtain ⟨front, name, value, rfl⟩ := hbefore.exists_concat_of_isSome_openOrder hopen
  have hafter := hbefore.apply (.orderByDesc property)
  rw [Step.effect, if_pos hopen, extendLast_concat] at hafter
  obtain ⟨suffix, hurl, hreads⟩ := hbefore.exists_reads
  obtain ⟨more, hmore⟩ := url_prefix_url_apply query (.orderByDesc property)
  obtain ⟨suffix', hurl', hreads'⟩ := hafter.exists_reads
  have hsuffix : suffix' = suffix ++ more := by
    rw [← hmore, hurl, List.append_assoc] at hurl'
    exact (List.append_cancel_left hurl').symm
  subst hsuffix
  refine ⟨suffix, more, front, name, value, hurl, hurl', hreads, hbefore.sorted hopen, hreads', ?_⟩
  have hne : Sort.continuation property ≠ [] := by simp [Sort.continuation]
  rw [← extendNamed_concat_eq_iff hne front name value]
  constructor
  · exact fun hr => hr.unique hreads'
  · exact fun he => he ▸ hreads'

/-- Where a limit has been appended after the order, the limit is made longer. -/
theorem orderByDesc_extends_limit :
    let query := ((new "/api".toList).run [.orderBy "a".toList, .top 5]).value
    query.openOrder.isSome ∧
    ∃ suffix more,
      query.url = "/api".toList ++ suffix ∧
      (query.orderByDesc "b".toList).url = "/api".toList ++ (suffix ++ more) ∧
      QueryString.Reads "/api".toList suffix
        [("$orderby".toList, "A".toList), ("$top".toList, "5".toList)] ∧
      QueryString.Reads "/api".toList (suffix ++ more)
        [("$orderby".toList, "A".toList), ("$top".toList, "5, B desc".toList)] ∧
      ¬ QueryString.Reads "/api".toList (suffix ++ more)
        [("$orderby".toList, "A, B desc".toList), ("$top".toList, "5".toList)] := by
  intro query
  have hopen : query.openOrder.isSome := rfl
  have hreach : Reachable "/api".toList query := Reachable.new.run _
  obtain ⟨suffix, more, front, name, value, hurl, hurl', hreads, -, hreads', hiff⟩ :=
    hreach.orderByDesc_reads_iff hopen "b".toList
  refine ⟨hopen, suffix, more, hurl, hurl', ?_⟩
  -- the parameters before the sort, by the effects of the two steps
  have hsteps := ((Represents.new "/api".toList).apply (.orderBy "a".toList)).apply (.top 5)
  obtain ⟨suffix', hurl₀, hbefore⟩ := hsteps.exists_reads
  obtain rfl : suffix' = suffix := List.append_cancel_left (hurl₀.symm.trans hurl)
  have heq : front ++ [(name, value)] =
      [("$orderby".toList, "A".toList)] ++ [("$top".toList, "5".toList)] :=
    (hreads.unique hbefore).trans (by decide +kernel)
  obtain ⟨rfl, hlast⟩ := List.append_inj' heq rfl
  obtain ⟨rfl, rfl⟩ := Prod.mk.inj (List.cons.inj hlast).1
  refine ⟨hreads, ?_, ?_⟩
  · have hmore : "5".toList ++ Sort.continuation "b".toList = "5, B desc".toList := by
      decide +kernel
    rwa [hmore] at hreads'
  · have hmeant : extendNamed "$orderby".toList (Sort.continuation "b".toList)
        ([("$orderby".toList, "A".toList)] ++ [("$top".toList, "5".toList)]) =
          [("$orderby".toList, "A, B desc".toList), ("$top".toList, "5".toList)] := by
      decide +kernel
    rw [hmeant] at hiff
    exact fun h => absurd (hiff.mp h) (by decide)

end Query

end FilterQuery
