import SequenceApi.Proofs.Json.Readable

/-!
# Values within a depth

What is put together from values that a text can have is such a value again, if its objects have
distinct keys, and nests one level deeper than its deepest part.

## Main definitions

* `Json.IsWithin`: a text can have the value, and it nests to a level at most

## Main results

* `Json.get?_ofSome`: what is found in an object of fields that may be missing
* `Json.isWithin_arr_iff`, `Json.isWithin_obj_iff`: arrays and objects
* `Json.isWithin_ofSome`: objects of fields that may be missing
-/

namespace SequenceApi.Json

variable {n : Nat}

/-! ## Depths -/

theorem depthItems_le_iff {items : List Json} :
    depthItems items ≤ n ↔ ∀ v ∈ items, v.depth ≤ n := by
  induction items with
  | nil => simp [depthItems]
  | cons v items ih => rw [depthItems, Nat.max_le, ih, List.forall_mem_cons]

theorem depthFields_le_iff {fields : List (String × Json)} :
    depthFields fields ≤ n ↔ ∀ e ∈ fields, e.2.depth ≤ n := by
  induction fields with
  | nil => simp [depthFields]
  | cons e fields ih => rw [depthFields, Nat.max_le, ih, List.forall_mem_cons]

theorem depth_le_depthItems {items : List Json} {v : Json} (h : v ∈ items) :
    v.depth ≤ depthItems items :=
  depthItems_le_iff.1 (Nat.le_refl _) v h

theorem depth_le_depthFields {fields : List (String × Json)} {e : String × Json} (h : e ∈ fields) :
    e.2.depth ≤ depthFields fields :=
  depthFields_le_iff.1 (Nat.le_refl _) e h

/-! ## Fields that may be missing -/

/-- The keys that are left keep their order. -/
theorem keys_filterMap_sublist (fields : List (String × Option Json)) :
    (Table.keys (fields.filterMap fun (k, v) => v.map (k, ·))).Sublist (Table.keys fields) := by
  induction fields with
  | nil => exact .slnil
  | cons e fields ih =>
    obtain ⟨k, v⟩ := e
    cases v with
    | none => exact ih.cons k
    | some v => exact ih.cons_cons k

/-- What is found in an object of fields that may be missing. -/
theorem get?_ofSome {fields : List (String × Option Json)} (hd : Table.Distinct fields)
    (k : String) : (ofSome fields).get? k = (Table.find k fields).join := by
  induction fields with
  | nil => rfl
  | cons e fields ih =>
    obtain ⟨k', v⟩ := e
    obtain ⟨hk, hd⟩ := List.nodup_cons.1 hd
    have hrest := ih hd
    simp only [ofSome, get?] at hrest ⊢
    by_cases h : k = k'
    · subst h
      cases v with
      | some v => simp [Table.find]
      | none =>
        -- the key is missing here, and does not come again
        have hnone : Table.find k fields = none := Table.find_eq_none_iff.2 hk
        simp [Table.find, hrest, hnone]
    · cases v <;> simp [Table.find, h, hrest]

/-! ## Values -/

/-- A value that a text can have, and that nests to a level at most. -/
structure IsWithin (n : Nat) (v : Json) : Prop where
  readable : v.IsReadable
  depth : v.depth ≤ n

theorem IsWithin.mono {m : Nat} {v : Json} (h : v.IsWithin m) (hmn : m ≤ n) : v.IsWithin n :=
  ⟨h.readable, Nat.le_trans h.depth hmn⟩

theorem isWithin_bool (b : Bool) : IsWithin n (.bool b) :=
  ⟨.bool b, Nat.zero_le n⟩

theorem isWithin_str (s : String) : IsWithin n (.str s) :=
  ⟨.str s, Nat.zero_le n⟩

/-- A text that may be missing. -/
theorem isWithin_of_mem_map_str {s : Option String} {v : Json} (h : v ∈ s.map Json.str) :
    v.IsWithin n := by
  obtain ⟨t, -, rfl⟩ := Option.map_eq_some_iff.1 h
  exact isWithin_str t

theorem isWithin_arr_iff {items : List Json} :
    IsWithin (n + 1) (.arr items) ↔ ∀ v ∈ items, v.IsWithin n := by
  constructor
  · rintro ⟨h, hdepth⟩ v hv
    cases h with | arr hitems => ?_
    exact ⟨hitems v hv, depthItems_le_iff.1 (Nat.le_of_succ_le_succ hdepth) v hv⟩
  · intro h
    exact ⟨.arr fun v hv => (h v hv).readable,
      Nat.succ_le_succ (depthItems_le_iff.2 fun v hv => (h v hv).depth)⟩

theorem isWithin_obj_iff {fields : List (String × Json)} :
    IsWithin (n + 1) (.obj fields) ↔ Table.Distinct fields ∧ ∀ e ∈ fields, e.2.IsWithin n := by
  constructor
  · rintro ⟨h, hdepth⟩
    exact ⟨h.distinct, fun e he =>
      ⟨h.field he, depthFields_le_iff.1 (Nat.le_of_succ_le_succ hdepth) e he⟩⟩
  · rintro ⟨hd, h⟩
    exact ⟨.obj hd fun e he => (h e he).readable,
      Nat.succ_le_succ (depthFields_le_iff.2 fun e he => (h e he).depth)⟩

theorem isWithin_strs (l : List String) : IsWithin (n + 1) (strs l) := by
  rw [strs, isWithin_arr_iff]
  intro v hv
  obtain ⟨s, -, rfl⟩ := List.mem_map.1 hv
  exact isWithin_str s

/-- An object without fields. -/
theorem isWithin_nil : IsWithin (n + 1) (.obj []) :=
  isWithin_obj_iff.2 ⟨List.nodup_nil, by simp⟩

/-- An object with one field. -/
theorem isWithin_single {k : String} {v : Json} (h : v.IsWithin n) :
    IsWithin (n + 1) (.obj [(k, v)]) :=
  isWithin_obj_iff.2 ⟨List.nodup_singleton k, by simpa using h⟩

/-- An object of fields that may be missing. -/
theorem isWithin_ofSome {fields : List (String × Option Json)} (hd : Table.Distinct fields)
    (h : ∀ e ∈ fields, ∀ v ∈ e.2, v.IsWithin n) : IsWithin (n + 1) (ofSome fields) := by
  rw [ofSome, isWithin_obj_iff]
  constructor
  · exact List.Nodup.sublist (keys_filterMap_sublist fields) hd
  · intro e he
    obtain ⟨⟨k, v⟩, hmem, hv⟩ := List.mem_filterMap.1 he
    obtain ⟨w, rfl, rfl⟩ := Option.map_eq_some_iff.1 hv
    exact h (k, some w) hmem w rfl

/-- An object of texts. -/
theorem isWithin_texts {fields : List (String × Json)} (hd : Table.Distinct fields)
    (h : ∀ e ∈ fields, ∃ s, e.2 = .str s) : IsWithin (n + 1) (.obj fields) := by
  rw [isWithin_obj_iff]
  refine ⟨hd, fun e he => ?_⟩
  obtain ⟨s, hs⟩ := h e he
  exact hs ▸ isWithin_str s

/-- The entries of a table under their keys. -/
theorem isWithin_map {α : Type} {t : Table String α} (hd : Table.Distinct t)
    {f : α → Json} (h : ∀ e ∈ t, (f e.2).IsWithin n) :
    IsWithin (n + 1) (.obj (t.map fun (k, a) => (k, f a))) := by
  rw [isWithin_obj_iff]
  constructor
  · rwa [Table.Distinct, Table.keys, List.map_map]
  · intro e he
    obtain ⟨f, hf, rfl⟩ := List.mem_map.1 he
    exact h f hf

/-- A table with one more entry. -/
theorem IsWithin.put {t : Table String Json} (h : IsWithin (n + 1) (.obj t))
    (k : String) {v : Json} (hv : v.IsWithin n) : IsWithin (n + 1) (.obj (Table.put k v t)) := by
  rw [isWithin_obj_iff] at h ⊢
  exact ⟨h.1.put k v, Table.forall_mem_put h.2 hv⟩

end SequenceApi.Json
