import FilterQuery.Page
import FilterQuery.Proofs.Text.Count

/-!
# Numbers that can be read

Reading a number among some parameters fails at a value that is no number, and otherwise gives the
number or says that there is none.  Only the failure is recorded.  Whatever comes after a number
therefore goes on from `Params.count?`, or is not come to at all.

* `Params.IsLast`, `Params.Rejects`: the value of the last parameter of a name, and one that is no
  count.
* `Params.count?`: the number that parameters give under a name, without failure or events.
* `Params.rejected?`: the value under a name that is no number.
* `Params.run_number?`, `Params.run_number?_bind`: what reading a number comes to, by itself and in
  front of something else.
-/

namespace FilterQuery

namespace Params

variable {params : List (Text × Text)} {key raw : Text}

/-! ## The last value of a name -/

/-- The last parameter of a name has a certain value. -/
def IsLast (params : List (Text × Text)) (key raw : Text) : Prop :=
  ∃ before after, params = before ++ (key, raw) :: after ∧ ∀ param ∈ after, param.1 ≠ key

/-- The last parameter of a name has a value that is no count. -/
def Rejects (params : List (Text × Text)) (key raw : Text) : Prop :=
  IsLast params key raw ∧ ∀ n, ¬ Text.SpellsCount raw n

theorem last?_eq_some_iff : last? params key = some raw ↔ IsLast params key raw := by
  rw [last?, Option.map_eq_some_iff]
  constructor
  · rintro ⟨⟨name, value⟩, hfound, rfl⟩
    obtain ⟨hname, after, before, hparams, hafter⟩ := List.find?_eq_some_iff_append.mp hfound
    obtain rfl : name = key := of_decide_eq_true hname
    refine ⟨before.reverse, after.reverse, ?_, fun param hmem => ?_⟩
    · rw [← List.reverse_reverse params, hparams]
      simp
    · simpa using hafter param (List.mem_reverse.mp hmem)
  · rintro ⟨before, after, rfl, hafter⟩
    refine ⟨(key, raw), List.find?_eq_some_iff_append.mpr ⟨decide_eq_true rfl, after.reverse,
      before.reverse, by simp, fun param hmem => ?_⟩, rfl⟩
    simpa using hafter param (List.mem_reverse.mp hmem)

/-! ## Reading it -/

/-- The number that the last parameter of a name gives, if there is one and it can be read. -/
def count? (params : List (Text × Text)) (key : Text) : Option UInt64 :=
  (last? params key).bind fun raw => Text.readCount? (Text.trim raw)

/-- The value of the last parameter of a name, where it is not a number. -/
def rejected? (params : List (Text × Text)) (key : Text) : Option Text :=
  (last? params key).filter fun raw => (Text.readCount? (Text.trim raw)).isNone

/-- Reading a number fails at a value that is none, which is recorded, and otherwise gives what
`count?` says. -/
theorem run_number? (params : List (Text × Text)) (key : Text) :
    (number? params key).run =
      match rejected? params key with
      | some raw => ⟨.error (.invalidNumber key raw), [.numberRejected key raw]⟩
      | none => ⟨.ok (count? params key), []⟩ := by
  unfold number? rejected? count?
  cases last? params key with
  | none => rfl
  | some raw =>
    cases hread : Text.readCount? (Text.trim raw) with
    | none =>
      simp only [hread, Option.filter_some, Option.isNone_none, if_true]
      rfl
    | some n =>
      simp only [hread, Option.filter_some, Option.isNone_some, Option.bind_some]
      rfl

theorem run_number?_bind {β : Type} (params : List (Text × Text)) (key : Text)
    (next : Option UInt64 → ExceptT Failure Traced β) :
    (number? params key >>= next).run =
      match rejected? params key with
      | some raw => ⟨.error (.invalidNumber key raw), [.numberRejected key raw]⟩
      | none => (next (count? params key)).run := by
  rw [ExceptT.run_bind, run_number?]
  cases rejected? params key with
  | some raw => rfl
  | none => rfl

/-- No value is rejected where there is none, or where it is a number. -/
theorem rejected?_eq_none_iff :
    rejected? params key = none ↔ (count? params key).isSome = (last? params key).isSome := by
  unfold rejected? count?
  cases last? params key with
  | none => simp
  | some raw =>
    cases hread : Text.readCount? (Text.trim raw) with
    | none => simp [hread]
    | some n => simp [hread]

theorem rejected?_eq_some_iff : rejected? params key = some raw ↔ Rejects params key raw := by
  show _ ↔ IsLast params key raw ∧ ∀ n, ¬ Text.SpellsCount raw n
  rw [rejected?, Option.filter_eq_some_iff, last?_eq_some_iff, Option.isNone_iff_eq_none,
    Text.readCount?_trim_eq_none_iff]

theorem rejected?_eq_none_iff_forall :
    rejected? params key = none ↔ ∀ raw, ¬ Rejects params key raw := by
  rw [Option.eq_none_iff_forall_ne_some]
  exact forall_congr' fun raw => not_congr rejected?_eq_some_iff

end Params

end FilterQuery
