import FilterQuery.Proofs.Query.Order

/-!
# Steps without a URL

`Draft` runs the steps of a query on the list of parameters that they are about, with no URL and no
codes.  A draft knows how many parameters have been appended since the last sort, so that it can say
when adding to the order is in order: when there are none.  Steps that keep to this mean the same to
a query and to a draft: a receiver reads from the URL just the parameters of the draft.

* `Draft.apply`, `Draft.run`: the steps on parameters.
* `Draft.Unbroken`: no parameter stands between an order and what is added to it.
* `Draft.Agrees`: what a query and its draft have in common, kept up by every step.
* `Query.run_reads_draft`: the query reads as its draft.
-/

namespace FilterQuery

/-- The parameters that steps ask for, as far as they have been taken. -/
structure Draft where
  parameters : List (Text × Text) := []
  /-- How many parameters have been appended since the last sort, if there has been one. -/
  sinceSort : Option Nat := none
  settings : Settings := Settings.standard

namespace Draft

/-- A draft with more parameters, which are no order. -/
def append (draft : Draft) (added : List (Text × Text)) : Draft :=
  { draft with
    parameters := draft.parameters ++ added
    sinceSort := draft.sinceSort.map (· + added.length) }

/-- A draft after one more step. -/
def apply (draft : Draft) : Step → Draft
  | .withSettings settings => { draft with settings := settings }
  | .orderBy property =>
    { draft with
      parameters := draft.parameters ++ [("$orderby".toList, Sort.normalize property)]
      sinceSort := some 0 }
  | .orderByDesc property =>
    { draft with
      parameters :=
        if draft.sinceSort.isSome then
          extendNamed "$orderby".toList (", ".toList ++ Sort.normalize property ++ " desc".toList)
            draft.parameters
        else
          draft.parameters ++ [("$orderby".toList, Sort.normalize property ++ " desc".toList)]
      sinceSort := some 0 }
  | step => draft.append (step.added draft.settings)

/-- A draft after some more steps. -/
def run (draft : Draft) : List Step → Draft
  | [] => draft
  | step :: others => (draft.apply step).run others

/-- Whether some steps add to an order only where no other parameter has been appended since the
last sort. -/
def Unbroken (draft : Draft) : List Step → Prop
  | [] => True
  | .orderByDesc property :: others =>
    draft.sinceSort.getD 0 = 0 ∧ (draft.apply (.orderByDesc property)).Unbroken others
  | step :: others => (draft.apply step).Unbroken others

theorem unbroken_cons_iff {draft : Draft} {step : Step} {others : List Step} :
    draft.Unbroken (step :: others) ↔
      draft.Unbroken [step] ∧ (draft.apply step).Unbroken others := by
  cases step <;> simp [Unbroken]

/-! ## A query and its draft -/

/-- What a query and its draft have in common. -/
structure Agrees (endpoint : Text) (query : Query) (draft : Draft) : Prop where
  represents : Represents endpoint query draft.parameters
  settings_eq : query.settings = draft.settings
  isSome_eq : query.openOrder.isSome = draft.sinceSort.isSome
  /-- Right after a sort the order is the last parameter. -/
  last : draft.sinceSort = some 0 →
    ∃ (front : List (Text × Text)) (value : Text),
      draft.parameters = front ++ [("$orderby".toList, value)]

namespace Agrees

variable {endpoint : Text} {query next : Query} {draft : Draft}

theorem new (endpoint : Text) : Agrees endpoint (Query.new endpoint) {} :=
  ⟨.new endpoint, rfl, rfl, by simp⟩

/-- Parameters that are no order leave the order where it is, unless there are none of them. -/
theorem append {added : List (Text × Text)} (h : Agrees endpoint query draft)
    (hnext : Represents endpoint next (draft.parameters ++ added))
    (hsettings : next.settings = query.settings) (hopen : next.openOrder = query.openOrder) :
    Agrees endpoint next (draft.append added) where
  represents := hnext
  settings_eq := hsettings.trans h.settings_eq
  isSome_eq := by
    rw [hopen, h.isSome_eq, Draft.append, Option.isSome_map]
  last hzero := by
    obtain ⟨n, hn, hsum⟩ := Option.map_eq_some_iff.mp hzero
    obtain ⟨rfl, hlength⟩ := Nat.add_eq_zero_iff.mp hsum
    rw [Draft.append, List.length_eq_zero_iff.mp hlength, List.append_nil]
    exact h.last hn

/-- A descending sort opens an order or adds to the one that is the last parameter. -/
theorem orderByDesc (h : Agrees endpoint query draft) (property : Text)
    (hstep : draft.sinceSort.getD 0 = 0) :
    Agrees endpoint (query.orderByDesc property) (draft.apply (.orderByDesc property)) := by
  have hnext := h.represents.apply (.orderByDesc property)
  have hopen : (query.orderByDesc property).openOrder.isSome = true := by
    simp [Query.orderByDesc]
  rw [Step.effect, h.isSome_eq] at hnext
  cases hs : draft.sinceSort with
  | none =>
    have hparameters : (draft.apply (.orderByDesc property)).parameters =
        draft.parameters ++ [("$orderby".toList, Sort.normalize property ++ " desc".toList)] := by
      rw [Draft.apply, hs]
      rfl
    rw [hs, if_neg (by simp)] at hnext
    exact ⟨hparameters ▸ hnext, h.settings_eq, hopen, fun _ => ⟨_, _, hparameters⟩⟩
  | some n =>
    obtain rfl : n = 0 := by simpa [hs] using hstep
    obtain ⟨front, value, hlast⟩ := h.last hs
    have hparameters : (draft.apply (.orderByDesc property)).parameters =
        front ++ [("$orderby".toList, value ++ Sort.continuation property)] := by
      rw [← extendNamed_concat_self, ← hlast, Draft.apply, hs]
      rfl
    rw [hs, if_pos Option.isSome_some, hlast, extendLast_concat] at hnext
    exact ⟨hparameters ▸ hnext, h.settings_eq, hopen, fun _ => ⟨_, _, hparameters⟩⟩

/-- **Every step means the same to a query and to its draft**, provided that it does not add to an
order behind another parameter. -/
theorem apply (h : Agrees endpoint query draft) (step : Step) (hstep : draft.Unbroken [step]) :
    Agrees endpoint (query.apply step).value (draft.apply step) := by
  have hnext := h.represents.apply step
  rw [h.settings_eq] at hnext
  cases step with
  | withSettings settings =>
    have hsame : Represents endpoint _ (draft.parameters ++ []) := hnext
    rw [List.append_nil] at hsame
    exact ⟨hsame, rfl, h.isSome_eq, h.last⟩
  | filter | top | skip | paginate => exact h.append hnext rfl rfl
  | orderBy property => exact ⟨hnext, h.settings_eq, rfl, fun _ => ⟨_, _, rfl⟩⟩
  | orderByDesc property => exact h.orderByDesc property hstep.1

/-- What holds of a step holds of a run. -/
theorem run (h : Agrees endpoint query draft) {steps : List Step} (hsteps : draft.Unbroken steps) :
    Agrees endpoint (query.run steps).value (draft.run steps) := by
  induction steps generalizing query draft with
  | nil => exact h
  | cons step others ih =>
    obtain ⟨hstep, hothers⟩ := Draft.unbroken_cons_iff.mp hsteps
    exact ih (h.apply step hstep) hothers

end Agrees

end Draft

/-- **A receiver reads what the steps ask for.**  Whatever the steps and their number, as long as
each addition to an order follows it with no other parameter in between, the query string reads as
the parameters of the draft. -/
theorem Query.run_reads_draft (endpoint : Text) {steps : List Step}
    (h : Draft.Unbroken {} steps) :
    ∃ suffix, ((Query.new endpoint).run steps).value.url = endpoint ++ suffix ∧
      QueryString.Reads endpoint suffix (Draft.run {} steps).parameters :=
  ((Draft.Agrees.new endpoint).run h).represents.exists_reads

/-- An order in two steps with nothing sent between them, then a filter, a limit and a new order. -/
theorem Query.run_reads_draft_two_orders :
    let steps : List Step :=
      [.orderByDesc "a.b".toList, .filter (.params [("page".toList, "3".toList)]),
        .withSettings { Settings.standard with pageKey := "p".toList, pagingKeys := [] },
        .orderByDesc "c".toList, .filter (.params [("page".toList, "3".toList)]), .top 5,
        .orderBy "z".toList]
    Draft.Unbroken {} steps ∧
    ∃ suffix, ((Query.new "/api?x".toList).run steps).value.url = "/api?x".toList ++ suffix ∧
      QueryString.Reads "/api?x".toList suffix
        [("$orderby".toList, "A/b desc, C desc".toList),
          ("$filter".toList, payload [.field "page".toList .eq none "3".toList]),
          ("$top".toList, "5".toList), ("$orderby".toList, "Z".toList)] := by
  intro steps
  have hsteps : Draft.Unbroken {} steps := ⟨by decide, by decide +kernel, trivial⟩
  have hparameters : (Draft.run {} steps).parameters =
      [("$orderby".toList, "A/b desc, C desc".toList),
        ("$filter".toList, payload [.field "page".toList .eq none "3".toList]),
        ("$top".toList, "5".toList), ("$orderby".toList, "Z".toList)] := by
    decide +kernel
  have hreads := Query.run_reads_draft "/api?x".toList hsteps
  rw [hparameters] at hreads
  exact ⟨hsteps, hreads⟩

end FilterQuery
