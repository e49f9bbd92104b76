import FilterQuery.Proofs.Query.FromParameters

/-!
# Numbers that are rejected

A number is looked for by its name, and the last parameter of this name decides: there is nothing to
reject where no parameter has the name, and what stands in earlier ones is not looked at.  Four
names are gone through in their order, which may be the same name more than once, and the first at
which a value is no count is the one that is reported.  While this goes on nothing is recorded but
the rejection itself.

* `Params.RejectsFirst`: the first value that is no count.
* `Params.firstRejected?_eq_some_iff`: the value that is found to be no count.
* `Query.value_ofParams_eq_error_iff`: where a query is not built.
* `Query.ofParams_fails_at_first_rejected`: all of it together.
-/

namespace FilterQuery

namespace Params

variable {settings : Settings} {params : List (Text × Text)} {key raw : Text}

/-- Of the names that are numbers, in their order, this is the first whose value is no count. -/
def RejectsFirst (settings : Settings) (params : List (Text × Text)) (key raw : Text) : Prop :=
  ∃ earlier later, settings.numberNames = earlier ++ key :: later ∧
    (∀ name ∈ earlier, ∀ value, ¬ Rejects params name value) ∧ Rejects params key raw

theorem firstRejected?_eq_some_iff :
    firstRejected? settings params = some (key, raw) ↔ RejectsFirst settings params key raw := by
  rw [firstRejected?, List.findSome?_eq_some_iff]
  simp only [Option.map_eq_none_iff, rejected?_eq_none_iff_forall]
  constructor
  · rintro ⟨earlier, name, later, hnames, hfound, hearlier⟩
    obtain ⟨value, hrejected, heq⟩ := Option.map_eq_some_iff.mp hfound
    obtain ⟨rfl, rfl⟩ := Prod.mk.inj heq
    exact ⟨earlier, later, hnames, hearlier, rejected?_eq_some_iff.mp hrejected⟩
  · rintro ⟨earlier, later, hnames, hearlier, hrejects⟩
    have hfound : (rejected? params key).map (fun raw => (key, raw)) = some (key, raw) := by
      rw [rejected?_eq_some_iff.mpr hrejects, Option.map_some]
    exact ⟨earlier, key, later, hnames, hfound, hearlier⟩

/-- Where a value is rejected, one of them is the first. -/
theorem exists_rejectsFirst_iff :
    (∃ key raw, RejectsFirst settings params key raw) ↔
      ∃ key ∈ settings.numberNames, ∃ raw, Rejects params key raw := by
  constructor
  · rintro ⟨key, raw, earlier, later, hnames, -, hrejects⟩
    exact ⟨key, by simp [hnames], raw, hrejects⟩
  · rintro ⟨key, hkey, raw, hrejects⟩
    cases hfirst : firstRejected? settings params with
    | none =>
      rw [firstRejected?, List.findSome?_eq_none_iff] at hfirst
      have hnone := rejected?_eq_none_iff_forall.mp (Option.map_eq_none_iff.mp (hfirst key hkey))
      exact absurd hrejects (hnone raw)
    | some found => exact ⟨found.1, found.2, firstRejected?_eq_some_iff.mp hfirst⟩

end Params

/-! ## Failures -/

namespace Query

variable {endpoint key raw : Text} {params other : List (Text × Text)} {settings : Settings}
  {failure : Failure}

/-- Where a number is rejected, this is all that is recorded. -/
theorem events_ofParams_of_rejectsFirst (h : Params.RejectsFirst settings params key raw)
    (endpoint : Text) :
    (ofParams endpoint params settings).run.events = [.numberRejected key raw] := by
  rw [run_ofParams, Params.firstRejected?_eq_some_iff.mpr h]

theorem value_ofParams_eq_error_iff :
    (ofParams endpoint params settings).run.value = .error failure ↔
      ∃ key raw, Params.RejectsFirst settings params key raw ∧
        failure = .invalidNumber key raw := by
  simp only [value_ofParams, ← Params.firstRejected?_eq_some_iff]
  cases Params.firstRejected? settings params with
  | none => simp
  | some found =>
    constructor
    · rintro ⟨⟩
      exact ⟨found.1, found.2, rfl, rfl⟩
    · rintro ⟨key, raw, heq, rfl⟩
      cases heq
      rfl

/-- Parameters fail alike when they have the same last values under the names of the numbers. -/
theorem value_ofParams_eq_error_congr
    (h : ∀ key ∈ settings.numberNames, Params.last? params key = Params.last? other key) :
    (ofParams endpoint params settings).run.value = .error failure ↔
      (ofParams endpoint other settings).run.value = .error failure := by
  simp only [value_ofParams_eq_error_iff, ← Params.firstRejected?_eq_some_iff,
    Params.firstRejected?_congr h]

/-- **A query is not built exactly where the last value of a number is no count.**  A count is
decimal digits that fit into 64 bits, with at most one plus sign before them and blanks around.  The
failure names the first such number with its value as it was given, and a warning with these two is
all that is recorded.  Whether a query fails and how depends on nothing but the last values of the
four names, not on what else is asked of it, nor on whether the number would have been used. -/
theorem ofParams_fails_at_first_rejected (endpoint : Text) (params : List (Text × Text))
    (settings : Settings) :
    ((∃ failure, (ofParams endpoint params settings).run.value = .error failure) ↔
      ∃ key ∈ [settings.pageKey, settings.pageSizeKey, settings.topKey, settings.skipKey],
        ∃ raw, Params.IsLast params key raw ∧ ∀ n, ¬ Text.SpellsCount raw n) ∧
    (∀ failure, (ofParams endpoint params settings).run.value = .error failure →
      ∃ key raw, Params.RejectsFirst settings params key raw ∧
        failure = .invalidNumber key raw ∧
        ∃ event, (ofParams endpoint params settings).run.events = [event] ∧
          event.level = .warn ∧
          event.details = [("key".toList, key), ("value".toList, raw)]) ∧
    ∀ other,
      (∀ key ∈ [settings.pageKey, settings.pageSizeKey, settings.topKey, settings.skipKey],
        ∀ raw, Params.IsLast params key raw ↔ Params.IsLast other key raw) →
      ∀ failure, (ofParams endpoint params settings).run.value = .error failure ↔
        (ofParams endpoint other settings).run.value = .error failure := by
  refine ⟨?_, ?_, ?_⟩
  · show _ ↔ ∃ key ∈ settings.numberNames, ∃ raw, Params.Rejects params key raw
    rw [← Params.exists_rejectsFirst_iff]
    constructor
    · rintro ⟨failure, hfails⟩
      obtain ⟨key, raw, hfirst, -⟩ := value_ofParams_eq_error_iff.mp hfails
      exact ⟨key, raw, hfirst⟩
    · rintro ⟨key, raw, hfirst⟩
      exact ⟨_, value_ofParams_eq_error_iff.mpr ⟨key, raw, hfirst, rfl⟩⟩
  · intro failure hfails
    obtain ⟨key, raw, hfirst, rfl⟩ := value_ofParams_eq_error_iff.mp hfails
    exact ⟨key, raw, hfirst, rfl, _, events_ofParams_of_rejectsFirst hfirst endpoint, rfl, rfl⟩
  · intro other hlast failure
    refine value_ofParams_eq_error_congr fun key hkey => ?_
    ext raw
    rw [Params.last?_eq_some_iff, Params.last?_eq_some_iff]
    exact hlast key hkey raw

/-- The offset has the name of the limit, and both are of no use beside a page.  The last of them is
no count, the first is, and the page alone would be right. -/
theorem ofParams_fails_at_first_rejected_beside_page :
    let settings : Settings := { skipKey := "$top".toList }
    let params :=
      [("$top".toList, "5".toList), ("page".toList, "1".toList),
        ("pageSize".toList, "+10".toList), ("$top".toList, " ++5 ".toList)]
    let other :=
      [("page".toList, "x".toList), ("page".toList, "1".toList),
        ("pageSize".toList, "+10".toList), ("gt_a".toList, "%".toList),
        ("$top".toList, " ++5 ".toList)]
    let failure := Failure.invalidNumber "$top".toList " ++5 ".toList
    (ofParams "/api".toList params settings).run.value = .error failure ∧
    (∃ key ∈ [settings.pageKey, settings.pageSizeKey, settings.topKey, settings.skipKey],
      ∃ raw, Params.IsLast params key raw ∧ ∀ n, ¬ Text.SpellsCount raw n) ∧
    (∃ event, (ofParams "/api".toList params settings).run.events = [event] ∧
      event.level = .warn ∧
      event.details = [("key".toList, "$top".toList), ("value".toList, " ++5 ".toList)]) ∧
    (∀ key ∈ [settings.pageKey, settings.pageSizeKey, settings.topKey, settings.skipKey],
      ∀ raw, Params.IsLast params key raw ↔ Params.IsLast other key raw) ∧
    (ofParams "/api".toList other settings).run.value = .error failure := by
  intro settings params other failure
  have hfails : (ofParams "/api".toList params settings).run.value = .error failure := by
    rw [value_ofParams_eq_error_iff]
    refine ⟨_, _, Params.firstRejected?_eq_some_iff.mp ?_, rfl⟩
    decide +kernel
  have hlast : ∀ key ∈ settings.numberNames, ∀ raw,
      Params.IsLast params key raw ↔ Params.IsLast other key raw := by
    have hsame : ∀ key ∈ settings.numberNames,
        Params.last? params key = Params.last? other key := by decide +kernel
    intro key hkey raw
    rw [← Params.last?_eq_some_iff, ← Params.last?_eq_some_iff, hsame key hkey]
  obtain ⟨hiff, hwarned, hsame⟩ := ofParams_fails_at_first_rejected "/api".toList params settings
  obtain ⟨key, raw, -, heq, hevent⟩ := hwarned failure hfails
  obtain ⟨rfl, rfl⟩ : "$top".toList = key ∧ " ++5 ".toList = raw := Failure.invalidNumber.inj heq
  exact ⟨hfails, hiff.mp ⟨failure, hfails⟩, hevent, hlast, (hsame other hlast failure).mp hfails⟩

end Query

end FilterQuery
