import SequenceApi.Proofs.Json.Readable
import SequenceApi.Proofs.Json.Reordered

/-!
# Values whose objects are maps

An object is a map if no key of it occurs twice. The reader of JSON texts makes no other objects: a
key that occurs twice in a text replaces its first value.

With sorted keys, objects that are maps are equal if they have equal values under every key. And if
an object of this kind is the same as another one up to the order of keys, then the other one is of
this kind too, and the values under every key are the same up to the order of keys.

## Main definitions

* `Json.Contains`: a value inside another one
* `Json.DistinctKeys`: no object inside has a key twice

## Main results

* `Json.sortKeys_obj_eq_iff`: sorted objects are compared key by key
* `Json.Reordered.find_obj`: objects that are the same up to order are compared key by key
* `Json.distinctKeys_of_readChars`: the reader writes every key once
-/

namespace SequenceApi.Json

/-- The value itself, or a value inside one of its items or fields. -/
inductive Contains : Json → Json → Prop where
  | self (v : Json) : Contains v v
  | item {items : List Json} {v w : Json} (hv : v ∈ items) (h : Contains v w) :
      Contains (.arr items) w
  | field {fields : List (String × Json)} {e : String × Json} {w : Json} (he : e ∈ fields)
      (h : Contains e.2 w) : Contains (.obj fields) w

theorem contains_arr_iff {items : List Json} {w : Json} :
    Contains (.arr items) w ↔ w = .arr items ∨ ∃ v ∈ items, v.Contains w := by
  constructor
  · intro h
    cases h with
    | self => exact .inl rfl
    | item hv h => exact .inr ⟨_, hv, h⟩
  · rintro (rfl | ⟨v, hv, h⟩)
    · exact .self _
    · exact .item hv h

theorem contains_obj_iff {fields : List (String × Json)} {w : Json} :
    Contains (.obj fields) w ↔ w = .obj fields ∨ ∃ e ∈ fields, e.2.Contains w := by
  constructor
  · intro h
    cases h with
    | self => exact .inl rfl
    | field he h => exact .inr ⟨_, he, h⟩
  · rintro (rfl | ⟨e, he, h⟩)
    · exact .self _
    · exact .field he h

/-- A value that is no container has nothing inside. -/
theorem contains_atom_iff {v w : Json} (harr : ∀ items, v ≠ .arr items)
    (hobj : ∀ fields, v ≠ .obj fields) : v.Contains w ↔ w = v := by
  constructor
  · intro h
    cases h with
    | self => rfl
    | item => exact absurd rfl (harr _)
    | field => exact absurd rfl (hobj _)
  · rintro rfl
    exact .self _

theorem Contains.trans {u v w : Json} (h : u.Contains v) (h' : v.Contains w) : u.Contains w := by
  induction h with
  | self => exact h'
  | item hv _ ih => exact .item hv (ih h')
  | field he _ ih => exact .field he (ih h')

/-- No object inside the value has a key twice. -/
def DistinctKeys (v : Json) : Prop :=
  ∀ fields, v.Contains (.obj fields) → Table.Distinct fields

theorem distinctKeys_arr_iff {items : List Json} :
    DistinctKeys (.arr items) ↔ ∀ v ∈ items, v.DistinctKeys := by
  constructor
  · exact fun h v hv fields hf => h fields (.item hv hf)
  · intro h fields hf
    obtain hf | ⟨v, hv, hf⟩ := contains_arr_iff.1 hf
    · cases hf
    · exact h v hv fields hf

theorem distinctKeys_obj_iff {fields : List (String × Json)} :
    DistinctKeys (.obj fields) ↔ Table.Distinct fields ∧ ∀ e ∈ fields, e.2.DistinctKeys := by
  constructor
  · exact fun h => ⟨h fields (.self _), fun e he fields' hf => h fields' (.field he hf)⟩
  · rintro ⟨hd, h⟩ fields' hf
    obtain hf | ⟨e, he, hf⟩ := contains_obj_iff.1 hf
    · obtain rfl := Json.obj.inj hf
      exact hd
    · exact h e he fields' hf

theorem DistinctKeys.item {items : List Json} (h : DistinctKeys (.arr items)) {v : Json}
    (hv : v ∈ items) : v.DistinctKeys :=
  distinctKeys_arr_iff.1 h v hv

/-- The first item of an array, or nothing in its place. -/
theorem DistinctKeys.head {items : List Json} (h : DistinctKeys (.arr items)) :
    (items.head?.getD .null).DistinctKeys := by
  cases items with
  | nil =>
    intro fields hf
    cases hf
  | cons v items => exact h.item List.mem_cons_self

theorem DistinctKeys.field {fields : List (String × Json)} (h : DistinctKeys (.obj fields))
    {e : String × Json} (he : e ∈ fields) : e.2.DistinctKeys :=
  (distinctKeys_obj_iff.1 h).2 e he

theorem DistinctKeys.distinct {fields : List (String × Json)} (h : DistinctKeys (.obj fields)) :
    Table.Distinct fields :=
  (distinctKeys_obj_iff.1 h).1

theorem distinctKeys_atom {v : Json} (harr : ∀ items, v ≠ .arr items)
    (hobj : ∀ fields, v ≠ .obj fields) : v.DistinctKeys := by
  intro fields h
  rw [contains_atom_iff harr hobj] at h
  exact absurd h.symm (hobj fields)

/-! ## Sorted objects -/

section

variable {fields fields' : List (String × Json)}

theorem keys_sortFields (fields : List (String × Json)) :
    Table.keys (sortFields fields) = Table.keys fields := by
  rw [sortFields_eq_map, Table.keys, Table.keys, List.map_map]
  rfl

theorem find_sortFields (k : String) (fields : List (String × Json)) :
    Table.find k (sortFields fields) = (Table.find k fields).map sortKeys := by
  rw [sortFields_eq_map, Table.find_map]

theorem pairwise_mergeSort_fields (fields : List (String × Json)) :
    (fields.mergeSort fun a b => a.1 ≤ b.1).Pairwise fun a b => a.1 ≤ b.1 := by
  have h : (fields.mergeSort fun a b => decide (a.1 ≤ b.1)).Pairwise
      fun a b => decide (a.1 ≤ b.1) = true := by
    apply List.pairwise_mergeSort
    · intro a b c hab hbc
      simp only [decide_eq_true_eq] at hab hbc ⊢
      exact String.le_trans hab hbc
    · intro a b
      simpa using String.le_total a.1 b.1
  simpa using h

/-- Fields with distinct keys have one order with ascending keys. -/
theorem mergeSort_fields_eq_iff (hd : Table.Distinct fields) (hd' : Table.Distinct fields') :
    (fields.mergeSort fun a b => a.1 ≤ b.1) = (fields'.mergeSort fun a b => a.1 ≤ b.1) ↔
      ∀ k, Table.find k fields = Table.find k fields' := by
  rw [← hd.perm_iff hd']
  constructor
  · intro h
    have hsort := List.mergeSort_perm fields fun a b => a.1 ≤ b.1
    rw [h] at hsort
    exact hsort.symm.trans (List.mergeSort_perm _ _)
  · intro h
    have hperm : (fields.mergeSort fun a b => a.1 ≤ b.1).Perm
        (fields'.mergeSort fun a b => a.1 ≤ b.1) :=
      (List.mergeSort_perm _ _).trans (h.trans (List.mergeSort_perm _ _).symm)
    refine hperm.eq_of_pairwise ?_ (pairwise_mergeSort_fields _) (pairwise_mergeSort_fields _)
    rintro ⟨k, v⟩ ⟨k', v'⟩ hm hm' hle hle'
    -- equal keys have one value, which is found in either list
    obtain rfl : k = k' := String.le_antisymm hle hle'
    have hv := hd.find_of_mem (List.mem_mergeSort.1 hm)
    have hv' := hd.find_of_mem (h.symm.subset (List.mem_mergeSort.1 hm'))
    rw [hv] at hv'
    rw [Option.some_inj.1 hv']

/-- With sorted keys, objects that are maps are compared key by key. -/
theorem sortKeys_obj_eq_iff (hd : Table.Distinct fields) (hd' : Table.Distinct fields') :
    sortKeys (.obj fields) = sortKeys (.obj fields') ↔
      ∀ k, (Table.find k fields).map sortKeys = (Table.find k fields').map sortKeys := by
  rw [sortKeys, sortKeys, Json.obj.injEq, mergeSort_fields_eq_iff]
  · simp only [find_sortFields]
  · rwa [Table.Distinct, keys_sortFields]
  · rwa [Table.Distinct, keys_sortFields]

end

/-! ## The order of keys -/

namespace Reordered

theorem exists_arr {items : List Json} {w : Json} (h : Reordered (.arr items) w) :
    ∃ items', w = .arr items' ∧ List.Forall₂ Reordered items items' := by
  cases h with
  | refl => exact ⟨items, rfl, List.forall₂_same.2 fun v _ => .refl v⟩
  | arr h => exact ⟨_, rfl, h⟩

/-- Values change under their keys, and then fields change places. -/
theorem exists_obj {fields : List (String × Json)} {w : Json} (h : Reordered (.obj fields) w) :
    ∃ fields' fields'', w = .obj fields'' ∧ SameFields fields fields' ∧ fields'.Perm fields'' := by
  cases h with
  | refl => exact ⟨fields, fields, rfl, List.forall₂_same.2 fun e _ => ⟨rfl, .refl _⟩, .refl _⟩
  | obj hk hv hp => exact ⟨_, _, rfl, .of_keys_values hk hv, hp⟩

/-- Of an object that is a map, the fields are found one by one. -/
theorem find_obj {fields : List (String × Json)} {w : Json} (hd : Table.Distinct fields)
    (h : Reordered (.obj fields) w) :
    ∃ fields'', w = .obj fields'' ∧ Table.Distinct fields'' ∧
      ∀ k, Option.Rel Reordered (Table.find k fields) (Table.find k fields'') := by
  obtain ⟨fields', fields'', rfl, hsame, hperm⟩ := h.exists_obj
  have hd' : Table.Distinct fields' := by
    rwa [Table.Distinct, ← hsame.keys]
  have hd'' := hd'.of_perm hperm
  refine ⟨fields'', rfl, hd'', fun k => ?_⟩
  rw [← (hd'.perm_iff hd'').1 hperm k]
  exact hsame.find k

end Reordered

/-! ## The reader -/

/-- A value that can be read has distinct keys. -/
theorem IsReadable.distinctKeys {v : Json} (h : v.IsReadable) : v.DistinctKeys := by
  induction h with
  | null | bool _ | int _ | float _ | str _ => exact distinctKeys_atom (by simp) (by simp)
  | arr _ ih => exact distinctKeys_arr_iff.2 ih
  | obj hd _ ih => exact distinctKeys_obj_iff.2 ⟨hd, ih⟩

/-- The reader writes every key of an object once. -/
theorem distinctKeys_of_readChars {cs : List Char} {v : Json} (h : readChars cs = .ok v) :
    v.DistinctKeys :=
  (isReadable_of_readChars h).distinctKeys

end SequenceApi.Json
