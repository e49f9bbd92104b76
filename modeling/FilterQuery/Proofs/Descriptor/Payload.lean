import FilterQuery.Descriptor.Payload
import FilterQuery.Proofs.Json.Reading
import FilterQuery.Proofs.Json.Writing

/-!
# A payload says what its descriptors are

A receiver that reads a payload finds an array with an object for each descriptor, and rebuilds from
each the descriptor that was sent.  A text that is absent is told from an empty one, and the name of
an operation from a text that happens to be the same.  Nothing that stands in a text can be taken
for structure, so two different lists of descriptors never have one payload.

* `Descriptor.ofPayload?`: the receiver's side.
* `parse_payload`: what the reader makes of a payload.
* `Descriptor.payload_lossless`: all of it together.
-/

namespace FilterQuery

namespace Descriptor

/-- The descriptors that are rebuilt from a text: it has to be an array with the object of a
descriptor at each place. -/
def ofPayload? (text : Text) : Option (List Descriptor) :=
  match Json.parse text with
  | .ok (.array items) => items.mapM ofJson?
  | _ => none

/-! ## The object of a descriptor -/

theorem isWritten_optionalJson (text : Option Text) : (optionalJson text).IsWritten := by
  cases text with
  | none => exact Json.isWritten_null
  | some text => exact Json.isWritten_string text

theorem isWritten_toJson (descriptor : Descriptor) : descriptor.toJson.IsWritten := by
  refine Json.isWritten_object ?_
  simp only [List.forall_mem_cons]
  exact ⟨isWritten_optionalJson _, Json.isWritten_string _, isWritten_optionalJson _,
    Json.isWritten_string _, isWritten_optionalJson _, by simp⟩

theorem merged_optionalJson (text : Option Text) :
    (optionalJson text).merged = optionalJson text := by
  cases text with
  | none => rfl
  | some text => rfl

/-- No key of a descriptor appears twice. -/
theorem merged_toJson (descriptor : Descriptor) : descriptor.toJson.merged = descriptor.toJson := by
  have hkeys : memberNames.Nodup := by decide
  refine Json.merged_object_of_nodup hkeys ?_
  simp only [List.forall_mem_cons]
  exact ⟨merged_optionalJson _, rfl, merged_optionalJson _, rfl, merged_optionalJson _, by simp⟩

/-- The object of a descriptor has the five members in their order. -/
theorem map_fst_toJson (descriptor : Descriptor) :
    ∃ members, descriptor.toJson = .object members ∧ members.map Prod.fst = memberNames :=
  ⟨_, rfl, rfl⟩

theorem mapM_ofJson?_map_toJson (descriptors : List Descriptor) :
    (descriptors.map toJson).mapM ofJson? = some descriptors := by
  induction descriptors with
  | nil => rfl
  | cons descriptor others ih =>
    rw [List.map_cons, List.mapM_cons, ofJson?_toJson, ih]
    rfl

end Descriptor

/-! ## The payload -/

theorem isWritten_payload (descriptors : List Descriptor) :
    (Json.array (descriptors.map Descriptor.toJson)).IsWritten := by
  refine Json.isWritten_array fun item hm => ?_
  obtain ⟨descriptor, -, rfl⟩ := List.mem_map.mp hm
  exact descriptor.isWritten_toJson

/-- **A payload is read as an array with an object for each descriptor.** -/
theorem parse_payload (descriptors : List Descriptor) :
    Json.parse (payload descriptors) = .ok (.array (descriptors.map Descriptor.toJson)) := by
  have hparse := Json.parse_of_padded (.of_kind (isWritten_payload descriptors).spells)
  have hmerged : (Json.array (descriptors.map Descriptor.toJson)).merged =
      .array (descriptors.map Descriptor.toJson) := by
    rw [Json.merged, Json.mergedItems_eq_map, List.map_map]
    exact congrArg Json.array (List.map_congr_left fun descriptor _ => descriptor.merged_toJson)
  rwa [hmerged] at hparse

/-- **The descriptors that were sent are rebuilt.** -/
theorem ofPayload?_payload (descriptors : List Descriptor) :
    Descriptor.ofPayload? (payload descriptors) = some descriptors := by
  rw [Descriptor.ofPayload?, parse_payload]
  exact Descriptor.mapM_ofJson?_map_toJson descriptors

theorem payload_inj {descriptors others : List Descriptor} :
    payload descriptors = payload others ↔ descriptors = others := by
  constructor
  · intro h
    have hsome := ofPayload?_payload descriptors
    rw [h, ofPayload?_payload] at hsome
    exact (Option.some.inj hsome).symm
  · exact congrArg payload

/-- **A payload loses nothing.**  It has no control characters; it is a text of the grammar for an
array with an object for each descriptor, in their order, each with the five members in theirs; the
reader finds just that in it, and the descriptors are rebuilt from what it finds.  Other descriptors
have another payload. -/
theorem Descriptor.payload_lossless (descriptors : List Descriptor) :
    (∀ c ∈ payload descriptors, 0x20 ≤ c.toNat) ∧
    Json.Spells .kept (.array (descriptors.map toJson)) (payload descriptors) ∧
    (∀ descriptor ∈ descriptors, ∃ members, descriptor.toJson = .object members ∧
      members.map Prod.fst = ["property".toList, "operation".toList, "transform".toList,
        "value".toList, "sql".toList]) ∧
    Json.parse (payload descriptors) = .ok (.array (descriptors.map toJson)) ∧
    ofPayload? (payload descriptors) = some descriptors ∧
    ∀ others, payload descriptors = payload others ↔ descriptors = others := by
  have hwritten := isWritten_payload descriptors
  exact ⟨hwritten.le, hwritten.spells, fun descriptor _ => descriptor.map_fst_toJson,
    parse_payload descriptors, ofPayload?_payload descriptors, fun _ => payload_inj⟩

end FilterQuery
