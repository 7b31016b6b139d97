import SequenceApi.Json.Basic
import SequenceApi.Proofs.Table

/-!
# Values up to the order of keys

Two JSON values are the same up to the order of keys if the fields of one object are those of the
other in some order, at every depth. Values that are equal once all keys are sorted are the same in
this sense.

## Main definitions

* `Json.Reordered`: the same value up to the order of keys

## Main results

* `Json.induction`: induction over values, with all items or all fields at once
* `Json.Reordered.of_sortKeys_eq`: equal with sorted keys
* `Json.SameFields.reordered`, `Json.Reordered.ofSome`: fields one by one
-/

namespace SequenceApi.Json

/-- Induction over values. What holds of all items holds of the array, and what holds of the values
of all fields holds of the object. -/
@[elab_as_elim]
theorem induction {motive : Json → Prop} (null : motive .null) (bool : ∀ b, motive (.bool b))
    (int : ∀ n, motive (.int n)) (float : ∀ x, motive (.float x)) (str : ∀ s, motive (.str s))
    (arr : ∀ items, (∀ v ∈ items, motive v) → motive (.arr items))
    (obj : ∀ fields, (∀ e ∈ fields, motive e.2) → motive (.obj fields)) (v : Json) : motive v := by
  cases v with
  | null => exact null
  | bool b => exact bool b
  | int n => exact int n
  | float x => exact float x
  | str s => exact str s
  | arr items => exact arr items fun v hv => induction null bool int float str arr obj v
  | obj fields => exact obj fields fun e he => induction null bool int float str arr obj e.2
termination_by sizeOf v
decreasing_by
  · have hitem := List.sizeOf_lt_of_mem hv
    rw [Json.arr.sizeOf_spec]
    omega
  · have hvalue := Table.sizeOf_snd_lt_of_mem he
    rw [Json.obj.sizeOf_spec]
    omega

/-- The same value up to the order of keys, at every depth. -/
inductive Reordered : Json → Json → Prop where
  | refl (v : Json) : Reordered v v
  | arr {items items' : List Json} (h : List.Forall₂ Reordered items items') :
      Reordered (.arr items) (.arr items')
  /-- The values change under their keys, and then the fields change places. -/
  | obj {fields fields' fields'' : List (String × Json)}
      (hk : fields.map Prod.fst = fields'.map Prod.fst)
      (hv : List.Forall₂ Reordered (fields.map Prod.snd) (fields'.map Prod.snd))
      (hp : fields'.Perm fields'') : Reordered (.obj fields) (.obj fields'')

/-! ## Fields one by one -/

/-- Fields with the same keys in the same order. -/
abbrev SameFields (fields fields' : List (String × Json)) : Prop :=
  Table.Rel Reordered fields fields'

theorem SameFields.reordered {fields fields' fields'' : List (String × Json)}
    (h : SameFields fields fields') (hp : fields'.Perm fields'') :
    Reordered (.obj fields) (.obj fields'') :=
  .obj h.keys h.values hp

theorem SameFields.reordered_obj {fields fields' : List (String × Json)}
    (h : SameFields fields fields') : Reordered (.obj fields) (.obj fields') :=
  h.reordered (.refl fields')

/-- A field that may be missing. -/
inductive ReorderedOption : Option Json → Option Json → Prop where
  | none : ReorderedOption none none
  | some {v w : Json} (h : Reordered v w) : ReorderedOption (some v) (some w)

theorem ReorderedOption.refl (v : Option Json) : ReorderedOption v v := by
  cases v with
  | none => exact .none
  | some v => exact .some (.refl v)

/-- Objects with the same fields that are given. -/
theorem Reordered.ofSome {fields fields' : List (String × Option Json)}
    (h : Table.Rel ReorderedOption fields fields') :
    Reordered (Json.ofSome fields) (Json.ofSome fields') := by
  refine SameFields.reordered_obj ?_
  induction h with
  | nil => exact .nil
  | @cons e e' _ _ he _ ih =>
    obtain ⟨k, v⟩ := e
    obtain ⟨k', v'⟩ := e'
    obtain ⟨rfl, hv⟩ := he
    cases hv with
    | none => simpa using ih
    | some h => simpa using And.intro h ih

/-! ## Sorted keys -/

theorem sortItems_eq_map (items : List Json) : sortItems items = items.map sortKeys := by
  induction items with
  | nil => rfl
  | cons v items ih => rw [sortItems, ih, List.map_cons]

theorem sortFields_eq_map (fields : List (String × Json)) :
    sortFields fields = fields.map fun e => (e.1, sortKeys e.2) := by
  induction fields with
  | nil => rfl
  | cons e fields ih => rw [sortFields, ih, List.map_cons]

/-- What has an image that is a permutation of another one has the same image in some order. -/
theorem exists_perm_map_eq {α β : Type} (f : α → β) {l l' : List β} (h : l.Perm l') :
    ∀ {m : List α}, m.map f = l' → ∃ m' : List α, m'.Perm m ∧ m'.map f = l := by
  induction h with
  | nil => exact fun {m} hm => ⟨m, .refl m, hm⟩
  | cons a _ ih =>
    intro m hm
    obtain ⟨x, t, rfl, rfl, ht⟩ := List.map_eq_cons_iff.1 hm
    obtain ⟨m', hp, hm'⟩ := ih ht
    exact ⟨x :: m', hp.cons x, by rw [List.map_cons, hm']⟩
  | swap a b l =>
    intro m hm
    obtain ⟨x, t, rfl, rfl, ht⟩ := List.map_eq_cons_iff.1 hm
    obtain ⟨y, t, rfl, rfl, rfl⟩ := List.map_eq_cons_iff.1 ht
    exact ⟨y :: x :: t, .swap x y t, rfl⟩
  | trans _ _ ih ih' =>
    intro m hm
    obtain ⟨m', hp, hm'⟩ := ih' hm
    obtain ⟨m'', hp', hm''⟩ := ih hm'
    exact ⟨m'', hp'.trans hp, hm''⟩

theorem forall₂_of_map_eq {α β : Type} {f : α → β} {R : α → α → Prop} {l : List α} :
    ∀ {m : List α}, l.map f = m.map f → (∀ a ∈ l, ∀ b, f a = f b → R a b) →
      List.Forall₂ R l m := by
  induction l with
  | nil =>
    intro m hm _
    rw [List.map_nil, eq_comm, List.map_eq_nil_iff] at hm
    rw [hm]
    exact .nil
  | cons a l ih =>
    intro m hm hr
    obtain ⟨b, m, rfl, hab, hm⟩ := List.map_eq_cons_iff.1 hm.symm
    obtain ⟨ha, hl⟩ := List.forall_mem_cons.1 hr
    exact .cons (ha b hab.symm) (ih hm.symm hl)

theorem sortKeys_eq_arr {v : Json} {items : List Json} (h : .arr items = sortKeys v) :
    ∃ items', v = .arr items' ∧ items = items'.map sortKeys := by
  cases v <;> simp_all [sortKeys, sortItems_eq_map]

theorem sortKeys_eq_obj {v : Json} {fields : List (String × Json)} (h : .obj fields = sortKeys v) :
    ∃ fields', v = .obj fields' ∧
      fields = (sortFields fields').mergeSort fun a b => a.1 ≤ b.1 := by
  cases v <;> simp_all [sortKeys]

/-- Fields that are the same once they are sorted are the same in some order. -/
theorem exists_perm_of_mergeSort_eq {fields fields' : List (String × Json)}
    (h : (sortFields fields).mergeSort (fun a b => a.1 ≤ b.1) =
      (sortFields fields').mergeSort fun a b => a.1 ≤ b.1) :
    ∃ fields'' : List (String × Json), fields''.Perm fields' ∧
      fields.map (fun e => (e.1, sortKeys e.2)) = fields''.map fun e => (e.1, sortKeys e.2) := by
  have hp : (sortFields fields).Perm (sortFields fields') := by
    have hsort := (List.mergeSort_perm (sortFields fields) fun a b => a.1 ≤ b.1).symm
    rw [h] at hsort
    exact hsort.trans (List.mergeSort_perm _ _)
  obtain ⟨fields'', hperm, hmap⟩ := exists_perm_map_eq _ hp (sortFields_eq_map fields').symm
  exact ⟨fields'', hperm, by rw [hmap, sortFields_eq_map]⟩

/-- Values that are equal with sorted keys are the same up to the order of keys. -/
theorem Reordered.of_sortKeys_eq {v w : Json} (h : sortKeys v = sortKeys w) : Reordered v w := by
  induction v using Json.induction generalizing w with
  | arr items ih =>
    -- the items are equal one by one
    rw [sortKeys, sortItems_eq_map] at h
    obtain ⟨items', rfl, hitems⟩ := sortKeys_eq_arr h
    exact .arr (forall₂_of_map_eq hitems fun v hv w hw => ih v hv hw)
  | obj fields ih =>
    -- the fields are equal in some order
    rw [sortKeys] at h
    obtain ⟨fields', rfl, hfields⟩ := sortKeys_eq_obj h
    obtain ⟨fields'', hp, hmap⟩ := exists_perm_of_mergeSort_eq hfields
    refine SameFields.reordered (forall₂_of_map_eq hmap fun e he e' he' => ?_) hp
    obtain ⟨hk, hv⟩ := Prod.mk.inj he'
    exact ⟨hk, ih e he hv⟩
  | _ =>
    cases w <;> simp [sortKeys] at h
    all_goals simp [h, Reordered.refl]

end SequenceApi.Json
