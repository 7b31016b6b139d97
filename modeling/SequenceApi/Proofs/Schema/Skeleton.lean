import SequenceApi.Proofs.Json.Distinct
import SequenceApi.Proofs.Schema.Fingerprint

/-!
# Skeletons of bodies

The skeleton of a body is what its fingerprint spells: the inferred schema without examples and with
sorted keys. Two bodies have one fingerprint just if they have one skeleton, and skeletons are
compared along the bodies: of two arrays by their first items, of two objects key by key and by the
keys that they require. That the keys of an object name properties, and are no keywords of a schema,
does not matter: they stand below `properties`, where examples are taken away from each schema.

## Main definitions

* `Schema.skeleton`: the inferred schema without examples, with sorted keys

## Main results

* `Schema.fingerprint_eq_iff_skeleton`: one fingerprint, one skeleton
* `Schema.skeleton_arr_eq_iff`, `Schema.skeleton_obj_eq_iff`: skeletons of arrays and of objects
-/

namespace SequenceApi.Schema

open Json (sortKeys)

/-- The inferred schema of a value without examples, with sorted keys. -/
def skeleton (v : Json) : Json :=
  (stripExamples (infer v)).sortKeys

/-- Values have one fingerprint if they have one skeleton: it can be read back from its text. -/
theorem fingerprint_eq_iff_skeleton {v w : Json} :
    fingerprint (infer v) = fingerprint (infer w) ↔ skeleton v = skeleton w := by
  constructor
  · intro h
    exact Json.print_compact_injective (stripExamples_infer_isCanonical v).sortKeys
      (stripExamples_infer_isCanonical w).sortKeys h
  · exact fun h => congrArg (Json.print Json.compact) h

/-! ## Arrays -/

/-- The schema of an empty array's items is that of nothing. -/
theorem inferFirst_eq (items : List Json) : inferFirst items = infer (items.head?.getD .null) := by
  cases items <;> rfl

theorem skeleton_arr (items : List Json) :
    skeleton (.arr items) =
      sortKeys (.obj [("type", .str SchemaType.array.name),
        ("items", stripExamples (infer (items.head?.getD .null)))]) := by
  rw [skeleton, infer, inferFirst_eq]
  simp [stripExamples, stripFields]

theorem skeleton_arr_eq_iff {items items' : List Json} :
    skeleton (.arr items) = skeleton (.arr items') ↔
      skeleton (items.head?.getD .null) = skeleton (items'.head?.getD .null) := by
  have hkeys (type : String) (v : Json) :
      Table.Distinct [("type", Json.str type), ("items", v)] := by
    simp [Table.Distinct]
  rw [skeleton_arr, skeleton_arr, Json.sortKeys_obj_eq_iff (hkeys _ _) (hkeys _ _)]
  constructor
  · intro h
    simpa [Table.find, skeleton] using h "items"
  · intro h k
    by_cases hk : k = "items"
    · simpa [Table.find, skeleton, hk] using h
    · simp [Table.find, hk]

/-! ## Objects -/

section

variable {fields fields' : List (String × Json)}

/-- The schemas of properties, without examples. -/
theorem stripProperties_inferFields (fields : List (String × Json)) :
    stripProperties (.obj (inferFields fields)) =
      .obj (fields.map fun e => (e.1, stripExamples (infer e.2))) := by
  rw [stripProperties, stripEach_eq_map, inferFields_eq_map, List.map_map]
  rfl

theorem distinct_map_values {ν : Type} (h : Table.Distinct fields) (f : Json → ν) :
    Table.Distinct (fields.map fun e => (e.1, f e.2)) := by
  rw [Table.Distinct, Table.keys, List.map_map]
  exact h

/-- The fields of an object's schema without examples. -/
def objectFields (properties : Json) (required : List String) : List (String × Json) :=
  ("type", .str SchemaType.object.name) :: ("properties", properties) ::
    if required.isEmpty then [] else [("required", Json.strs required)]

theorem distinct_objectFields (properties : Json) (required : List String) :
    Table.Distinct (objectFields properties required) := by
  rw [objectFields]
  split <;> simp [Table.Distinct]

theorem sortKeys_strs (l : List String) : sortKeys (Json.strs l) = Json.strs l := by
  rw [Json.strs, sortKeys, Json.sortItems_eq_map, List.map_map]
  rfl

theorem strs_injective : Function.Injective Json.strs :=
  fun _ _ h => List.map_injective_iff.2 (fun _ _ => Json.str.inj) (Json.arr.inj h)

/-- Both parts of an object's schema are found in it. -/
theorem sortKeys_objectFields_eq_iff {p p' : Json} {r r' : List String} :
    sortKeys (.obj (objectFields p r)) = sortKeys (.obj (objectFields p' r')) ↔
      sortKeys p = sortKeys p' ∧ r = r' := by
  rw [Json.sortKeys_obj_eq_iff (distinct_objectFields p r) (distinct_objectFields p' r')]
  constructor
  · intro h
    have hp := h "properties"
    have hr := h "required"
    refine ⟨by simpa [objectFields, Table.find] using hp, ?_⟩
    cases r <;> cases r' <;>
      simp [objectFields, Table.find, sortKeys_strs, strs_injective.eq_iff] at hr ⊢
    exact hr
  · rintro ⟨hp, rfl⟩ k
    rw [objectFields, objectFields]
    by_cases htype : k = "type"
    · simp [Table.find, htype]
    · by_cases hk : k = "properties"
      · simp [Table.find, hk, hp]
      · simp [Table.find, htype, hk]

theorem skeleton_obj (fields : List (String × Json)) :
    skeleton (.obj fields) =
      sortKeys (.obj (objectFields (.obj (fields.map fun e => (e.1, stripExamples (infer e.2))))
        (requiredKeys fields))) := by
  rw [skeleton, stripExamples_infer_obj, stripProperties_inferFields]
  rfl

/-- The skeletons of objects are compared key by key, and by the keys that are required. -/
theorem skeleton_obj_eq_iff (hd : Table.Distinct fields) (hd' : Table.Distinct fields') :
    skeleton (.obj fields) = skeleton (.obj fields') ↔
      requiredKeys fields = requiredKeys fields' ∧
        ∀ k, (Table.find k fields).map skeleton = (Table.find k fields').map skeleton := by
  have hfind (fields : List (String × Json)) (k : String) :
      (Table.find k (fields.map fun e => (e.1, stripExamples (infer e.2)))).map sortKeys =
        (Table.find k fields).map skeleton := by
    rw [Table.find_map (fun v => stripExamples (infer v)), Option.map_map]
    rfl
  have hproperties := Json.sortKeys_obj_eq_iff
    (distinct_map_values hd fun v => stripExamples (infer v))
    (distinct_map_values hd' fun v => stripExamples (infer v))
  rw [skeleton_obj, skeleton_obj, sortKeys_objectFields_eq_iff, hproperties, and_comm]
  simp only [hfind]

end

end SequenceApi.Schema
