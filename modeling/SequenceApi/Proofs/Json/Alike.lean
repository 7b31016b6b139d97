import Mathlib.Data.List.Perm.Basic
import SequenceApi.Proofs.Json.Compact
import SequenceApi.Proofs.Json.Distinct

/-!
# Values with one sorted text

Once the keys of every object are sorted, the compact text of a value tells everything about it but
the order that its keys had and the forms of its numbers. So two values whose objects are maps have
one sorted text just if they are alike: the same up to the order of keys at every depth, where two
numbers are the same if they are written in the same way.

## Main definitions

* `Json.Alike`: the same value up to the order of keys and the forms of numbers

## Main results

* `Json.Alike.of_twin`: what becomes a twin by sorting is alike
* `Json.Alike.twin`: what is alike becomes a twin by sorting
* `Json.print_sortKeys_eq_iff`: one sorted text
-/

namespace SequenceApi.Json

/-- The same value up to the order of keys, at every depth; of two numbers, the texts are the
same. -/
inductive Alike : Json → Json → Prop where
  | null : Alike .null .null
  | bool (b : Bool) : Alike (.bool b) (.bool b)
  | str (s : String) : Alike (.str s) (.str s)
  | number {v w : Json} {cs : List Char} (hv : v.numberText? = some cs)
      (hw : w.numberText? = some cs) : Alike v w
  | arr {items items' : List Json} (h : List.Forall₂ Alike items items') :
      Alike (.arr items) (.arr items')
  /-- The values change under their keys, and then the fields change places. -/
  | obj {fields fields' fields'' : List (String × Json)}
      (hk : fields.map Prod.fst = fields'.map Prod.fst)
      (hv : List.Forall₂ Alike (fields.map Prod.snd) (fields'.map Prod.snd))
      (hp : fields'.Perm fields'') : Alike (.obj fields) (.obj fields'')

/-- Twins are alike. -/
theorem Twin.alike {v w : Json} (h : Twin v w) : Alike v w := by
  refine Twin.induction ?null ?bool ?str ?number ?arr ?obj h
  case null => exact .null
  case bool => exact .bool
  case str => exact .str
  case number => exact fun hv hw => .number hv hw
  case arr => exact fun h => .arr h
  case obj => exact fun h => .obj h.keys h.values (.refl _)

/-- Sorting leaves a value as it is that is neither an array nor an object. -/
theorem sortKeys_atom {v : Json} (harr : ∀ items, v ≠ .arr items)
    (hobj : ∀ fields, v ≠ .obj fields) : v.sortKeys = v := by
  cases v with
  | arr items => exact absurd rfl (harr items)
  | obj fields => exact absurd rfl (hobj fields)
  | _ => rfl

/-! ## From sorted values -/

/-- Fields that are twins after sorting are so one by one, in some order. -/
theorem exists_perm_of_twinFields {fields fields' : List (String × Json)}
    (h : TwinFields ((sortFields fields).mergeSort fun a b => a.1 ≤ b.1)
      ((sortFields fields').mergeSort fun a b => a.1 ≤ b.1)) :
    ∃ fields'' : List (String × Json), fields''.Perm fields' ∧
      Table.Rel (fun v w => Twin v.sortKeys w.sortKeys) fields fields'' := by
  have hsort (fields : List (String × Json)) :
      (sortFields fields).Perm ((sortFields fields).mergeSort fun a b => a.1 ≤ b.1) :=
    (List.mergeSort_perm _ _).symm
  -- the twins of the fields in their own order are the other fields in some order
  obtain ⟨sorted, hrel, hperm⟩ := (List.perm_comp_forall₂ (hsort fields) h)
  have hperm' := hperm.trans (hsort fields').symm
  rw [sortFields_eq_map fields'] at hperm'
  obtain ⟨fields'', hp, rfl⟩ := exists_perm_map_eq _ hperm' rfl
  refine ⟨fields'', hp, ?_⟩
  rw [sortFields_eq_map] at hrel
  exact List.forall₂_map_right_iff.1 (List.forall₂_map_left_iff.1 hrel)

/-- What becomes a twin by sorting is alike. -/
theorem Alike.of_twin {v w : Json} (h : Twin v.sortKeys w.sortKeys) : Alike v w := by
  -- Induction on the value; sorting keeps its kind, and so the other one is of the same kind.
  induction v using Json.induction generalizing w with
  | arr items ih =>
    generalize hw : w.sortKeys = u at h
    rw [sortKeys, sortItems_eq_map] at h
    cases h with
    | number hv => cases hv
    | arr h =>
      obtain ⟨items', rfl, rfl⟩ := sortKeys_eq_arr hw.symm
      rw [List.forall₂_map_left_iff, List.forall₂_map_right_iff] at h
      have hitems := (List.forall₂_and_left items _).2 ⟨ih, h⟩
      exact .arr (hitems.imp fun _ _ hv => hv.1 hv.2)
  | obj fields ih =>
    generalize hw : w.sortKeys = u at h
    rw [sortKeys] at h
    cases h with
    | number hv => cases hv
    | obj hk hv =>
      obtain ⟨fields', rfl, rfl⟩ := sortKeys_eq_obj hw.symm
      obtain ⟨fields'', hp, h⟩ := exists_perm_of_twinFields (.of_keys_values hk hv)
      have hfields := (List.forall₂_and_left fields _).2 ⟨ih, h⟩
      have hrel : Table.Rel Alike fields fields'' :=
        hfields.imp fun _ _ he => ⟨he.2.1, he.1 he.2.2⟩
      exact .obj hrel.keys hrel.values hp
  | _ =>
    -- sorting changes nothing, and no array or object is a twin of what is none
    cases w with
    | arr items' =>
      rw [sortKeys_atom (by simp) (by simp), sortKeys] at h
      cases h with | number _ hw => cases hw
    | obj fields' =>
      rw [sortKeys_atom (by simp) (by simp), sortKeys] at h
      cases h with | number _ hw => cases hw
    | _ => exact Twin.alike h

/-! ## To sorted values -/

theorem numberText?_sortKeys (v : Json) : numberText? v.sortKeys = numberText? v := by
  cases v <;> rfl

/-- Tables that agree still do when they are sorted by their keys. -/
theorem rel_mergeSort {R : Json → Json → Prop} {fields fields' : List (String × Json)}
    (h : Table.Rel R fields fields') :
    Table.Rel R (fields.mergeSort fun a b => a.1 ≤ b.1)
      (fields'.mergeSort fun a b => a.1 ≤ b.1) := by
  -- sort the pairs of corresponding fields by the key that both have
  obtain ⟨hlength, hrel⟩ := List.forall₂_iff_zip.1 h
  generalize hpairs : fields.zip fields' = pairs at hrel
  have hfst : pairs.map Prod.fst = fields := by
    rw [← hpairs, List.map_fst_zip hlength.le]
  have hsnd : pairs.map Prod.snd = fields' := by
    rw [← hpairs, List.map_snd_zip hlength.ge]
  have hkeys (p : (String × Json) × (String × Json)) (hp : p ∈ pairs) : p.1.1 = p.2.1 :=
    (hrel hp).1
  have hsort : fields.mergeSort (fun a b => a.1 ≤ b.1) =
      (pairs.mergeSort fun p q => p.1.1 ≤ q.1.1).map Prod.fst := by
    rw [← hfst]
    refine (List.map_mergeSort fun p _ q _ => ?_).symm
    rfl
  have hsort' : fields'.mergeSort (fun a b => a.1 ≤ b.1) =
      (pairs.mergeSort fun p q => p.1.1 ≤ q.1.1).map Prod.snd := by
    rw [← hsnd]
    refine (List.map_mergeSort fun p hp q hq => ?_).symm
    rw [hkeys p hp, hkeys q hq]
  rw [hsort, hsort', Table.Rel, List.forall₂_map_left_iff, List.forall₂_map_right_iff,
    List.forall₂_same]
  exact fun p hp => hrel (List.mem_mergeSort.1 hp)

/-- What is alike becomes a twin by sorting, if its objects are maps. -/
theorem Alike.twin {v w : Json} (hv : v.DistinctKeys) (h : Alike v w) :
    Twin v.sortKeys w.sortKeys := by
  induction v using Json.induction generalizing w with
  | arr items ih =>
    cases h with
    | number hv => cases hv
    | arr h =>
      have hitems := (List.forall₂_and_left items _).2 ⟨fun v hmem => hv.item hmem, h⟩
      have hitems' := (List.forall₂_and_left items _).2 ⟨ih, hitems⟩
      rw [sortKeys, sortKeys, sortItems_eq_map, sortItems_eq_map]
      refine .arr (List.forall₂_map_left_iff.2 (List.forall₂_map_right_iff.2 ?_))
      exact hitems'.imp fun _ _ hv => hv.1 hv.2.1 hv.2.2
  | obj fields ih =>
    cases h with
    | number hv => cases hv
    | @obj _ fields' fields'' hk hvalues hp =>
      have hfields := (List.forall₂_and_left fields _).2
        ⟨fun e he => hv.field he, Table.Rel.of_keys_values hk hvalues⟩
      have hfields' := (List.forall₂_and_left fields _).2 ⟨ih, hfields⟩
      have hrel : Table.Rel (fun v w => Twin v.sortKeys w.sortKeys) fields fields' :=
        hfields'.imp fun _ _ he => ⟨he.2.2.1, he.1 he.2.1 he.2.2.2⟩
      have hsorted : TwinFields (sortFields fields) (sortFields fields') := by
        rw [sortFields_eq_map, sortFields_eq_map]
        exact hrel.map fun _ _ h => h
      -- the order of the other fields is gone once they are sorted
      have hd : Table.Distinct (sortFields fields') := by
        rw [Table.Distinct, ← hsorted.keys, keys_sortFields]
        exact hv.distinct
      have hperm : (sortFields fields').Perm (sortFields fields'') := by
        rw [sortFields_eq_map, sortFields_eq_map]
        exact hp.map _
      rw [sortKeys, sortKeys, ← (mergeSort_fields_eq_iff hd (hd.of_perm hperm)).2
        ((hd.perm_iff (hd.of_perm hperm)).1 hperm)]
      exact TwinFields.twin (rel_mergeSort hsorted)
  | _ =>
    cases h with
    | number hv hw => exact .number (hv ▸ numberText?_sortKeys _) (hw ▸ numberText?_sortKeys _)
    | _ => exact .refl _

/-- Two values, the first of maps, have one sorted compact text just if they are alike. -/
theorem print_sortKeys_eq_iff {v w : Json} (hv : v.DistinctKeys) :
    v.sortKeys.print compact = w.sortKeys.print compact ↔ Alike v w := by
  rw [print_compact_eq_iff]
  exact ⟨Alike.of_twin, Alike.twin hv⟩

end SequenceApi.Json
