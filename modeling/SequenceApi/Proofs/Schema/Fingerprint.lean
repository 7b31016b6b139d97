import SequenceApi.Proofs.Json.Compact
import SequenceApi.Proofs.Schema.Readable
import SequenceApi.Schema.Shape

/-!
# Fingerprints

The fingerprint of a schema decides its shape: inferred schemas with one fingerprint are the same
without their examples, up to the order of keys. The only numbers in an inferred schema besides
examples are the bounds of rules, and those are read in canonical form.

## Main definitions

* `Schema.IsInferred`: the schema of some value

## Main results

* `Schema.IsInferred.isCanonical`: no examples, no numbers out of form
* `Schema.IsInferred.reordered`: one fingerprint, one shape
-/

namespace SequenceApi

namespace Schema

open Json (IsCanonical Reordered)

/-! ## Taking examples away -/

theorem stripEach_eq_map (props : List (String × Json)) :
    stripEach props = props.map fun e => (e.1, stripExamples e.2) := by
  induction props with
  | nil => rfl
  | cons e props ih => rw [stripEach, ih, List.map_cons]

/-- A field without examples is a field of the schema, stripped or not. -/
theorem mem_stripFields {fields : List (String × Json)} {e : String × Json}
    (h : e ∈ stripFields fields) :
    ∃ v, (e.1, v) ∈ fields ∧ (e.2 = v ∨ e.2 = stripExamples v ∨ e.2 = stripProperties v) := by
  induction fields with
  | nil => cases h
  | cons f fields ih =>
    obtain ⟨k, v⟩ := f
    have hrest (h : e ∈ stripFields fields) :
        ∃ w, (e.1, w) ∈ (k, v) :: fields ∧
          (e.2 = w ∨ e.2 = stripExamples w ∨ e.2 = stripProperties w) := by
      obtain ⟨w, hw, he⟩ := ih h
      exact ⟨w, List.mem_cons_of_mem _ hw, he⟩
    rw [stripFields] at h
    split at h
    · exact hrest h
    · split at h
      · rcases List.mem_cons.1 h with rfl | h
        · exact ⟨v, List.mem_cons_self, .inr (.inr rfl)⟩
        · exact hrest h
      · split at h
        · rcases List.mem_cons.1 h with rfl | h
          · exact ⟨v, List.mem_cons_self, .inr (.inl rfl)⟩
          · exact hrest h
        · rcases List.mem_cons.1 h with rfl | h
          · exact ⟨v, List.mem_cons_self, .inl rfl⟩
          · exact hrest h

/-- What has canonical numbers keeps them, as a schema and as the properties of one. -/
theorem isCanonical_strip {v : Json} (hv : v.IsCanonical) :
    (stripExamples v).IsCanonical ∧ (stripProperties v).IsCanonical := by
  induction hv with
  | null => exact ⟨.null, .null⟩
  | bool b => exact ⟨.bool b, .bool b⟩
  | int n => exact ⟨.int n, .int n⟩
  | float h => exact ⟨.float h, .float h⟩
  | str s => exact ⟨.str s, .str s⟩
  | arr h _ => exact ⟨.arr h, .arr h⟩
  | obj h ih =>
    constructor
    · refine .obj fun e he => ?_
      obtain ⟨v, hv, hstrip⟩ := mem_stripFields he
      rcases hstrip with hstrip | hstrip | hstrip
      · exact hstrip ▸ h _ hv
      · exact hstrip ▸ (ih _ hv).1
      · exact hstrip ▸ (ih _ hv).2
    · rw [stripProperties, stripEach_eq_map]
      refine .obj fun e he => ?_
      obtain ⟨f, hf, rfl⟩ := List.mem_map.1 he
      exact (ih f hf).1

/-! ## Inferred schemas -/

theorem bare_isCanonical (type : SchemaType) : (bare type).IsCanonical :=
  .obj fun e he => by
    obtain rfl := List.mem_singleton.1 he
    exact .str _

theorem strs_isCanonical (l : List String) : (Json.strs l).IsCanonical :=
  .arr fun v hv => by
    obtain ⟨s, -, rfl⟩ := List.mem_map.1 hv
    exact .str s

theorem stripExamples_infer_obj (fields : List (String × Json)) :
    stripExamples (infer (.obj fields)) =
      .obj (("type", .str SchemaType.object.name) ::
        ("properties", stripProperties (.obj (inferFields fields))) ::
          if (requiredKeys fields).isEmpty then []
          else [("required", Json.strs (requiredKeys fields))]) := by
  simp only [infer, stripExamples]
  split <;> simp [stripFields]

/-- The numbers in an inferred schema besides its examples are canonical. -/
theorem stripExamples_infer_isCanonical (v : Json) : (stripExamples (infer v)).IsCanonical := by
  -- Induction on the value: examples are gone, and so only bounds of rules are numbers.
  induction v using Json.induction with
  | null => exact bare_isCanonical .string
  | bool b => exact bare_isCanonical .boolean
  | int n => exact bare_isCanonical .integer
  | float x => exact bare_isCanonical _
  | str s =>
    rw [infer, ofString]
    split
    · next rule h =>
      have hrule : rule.toSchema.IsWithin 1 := (Rule.isReadable_of_read? h).toSchema
      exact (isCanonical_strip hrule.readable.isCanonical).1
    · exact bare_isCanonical .string
  | arr items ih =>
    have hfirst : (stripExamples (inferFirst items)).IsCanonical := by
      cases items with
      | nil => exact bare_isCanonical .string
      | cons v vs => exact ih v List.mem_cons_self
    refine .obj fun e he => ?_
    rcases (by simpa [stripFields] using he :
      e = ("type", .str SchemaType.array.name) ∨ e = ("items", stripExamples (inferFirst items)))
      with rfl | rfl
    · exact .str _
    · exact hfirst
  | obj fields ih =>
    have hprops : (stripProperties (.obj (inferFields fields))).IsCanonical := by
      rw [stripProperties, stripEach_eq_map, inferFields_eq_map]
      refine .obj fun e he => ?_
      obtain ⟨e', he', rfl⟩ := List.mem_map.1 he
      obtain ⟨f, hf, rfl⟩ := List.mem_map.1 he'
      exact ih f hf
    rw [stripExamples_infer_obj]
    refine .obj fun e he => ?_
    rcases List.mem_cons.1 he with rfl | he
    · exact .str _
    · rcases List.mem_cons.1 he with rfl | he
      · exact hprops
      · split at he
        · cases he
        · obtain rfl := List.mem_singleton.1 he
          exact strs_isCanonical _

/-- The schema of some value. -/
def IsInferred (s : Json) : Prop :=
  ∃ v, infer v = s

namespace IsInferred

variable {s t : Json}

theorem isCanonical (hs : IsInferred s) : (stripExamples s).IsCanonical := by
  obtain ⟨v, rfl⟩ := hs
  exact stripExamples_infer_isCanonical v

/-- Inferred schemas with one fingerprint have one shape. -/
theorem reordered (hs : IsInferred s) (ht : IsInferred t) (h : fingerprint s = fingerprint t) :
    Reordered (stripExamples s) (stripExamples t) :=
  .of_sortKeys_eq (Json.print_compact_injective hs.isCanonical.sortKeys ht.isCanonical.sortKeys h)

/-- An inferred schema begins with its type. -/
theorem eq_obj (hs : IsInferred s) : ∃ type fields, s = .obj (("type", .str type) :: fields) := by
  obtain ⟨v, rfl⟩ := hs
  cases v with
  | str s =>
    rw [infer, ofString]
    split
    · next rule _ => exact ⟨_, _, rfl⟩
    · exact ⟨_, _, rfl⟩
  | _ => exact ⟨_, _, rfl⟩

end IsInferred

end Schema

end SequenceApi
