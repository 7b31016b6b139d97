import Mathlib.Data.List.Forall2
import Mathlib.Data.List.Nodup
import SequenceApi.Table

/-!
# Entries of tables

What is found in a table is an entry of it, and if no key occurs twice every entry is found. A table
that is made of entries has only those, each key once, and the images of its values are the values
of the table that is made of images. Two tables agree if they have the same keys in the same order
and related values under them.

## Main definitions

* `Table.Rel`: the same keys with related values

## Main results

* `Table.mem_of_find_eq_some`, `Table.Distinct.find_of_mem`: what is found is what is there
* `Table.mem_of_mem_putAll`, `Table.mem_keys_putAll`, `Table.Distinct.putAll`: what a table is made
  of
* `Table.find_map`, `Table.ofEntries_map`: images of values
* `Table.Rel.find`, `Table.Rel.put`, `Table.Rel.map`: what tables that agree have in common
-/

namespace SequenceApi

namespace Table

variable {κ ν μ : Type}

theorem sizeOf_snd_lt_of_mem [SizeOf κ] [SizeOf ν] {t : Table κ ν} {e : κ × ν} (h : e ∈ t) :
    sizeOf e.2 < sizeOf t := by
  have hentry := List.sizeOf_lt_of_mem h
  rw [Prod.mk.sizeOf_spec] at hentry
  omega

variable [DecidableEq κ]

theorem mem_of_find_eq_some {k : κ} {v : ν} {t : Table κ ν} (h : find k t = some v) :
    (k, v) ∈ t := by
  induction t with
  | nil => simp at h
  | cons e t ih =>
    rw [find] at h
    split at h
    · next hk => exact hk ▸ Option.some_inj.1 h ▸ List.mem_cons_self
    · exact List.mem_cons_of_mem e (ih h)

theorem exists_find_iff {k : κ} {t : Table κ ν} : (∃ v, find k t = some v) ↔ k ∈ keys t := by
  rw [← not_iff_not, ← find_eq_none_iff, Option.eq_none_iff_forall_ne_some, not_exists]

theorem has_iff {k : κ} {t : Table κ ν} : has k t = true ↔ k ∈ keys t := by
  rw [has, Option.isSome_iff_exists, exists_find_iff]

theorem find_map (f : ν → μ) (k : κ) (t : Table κ ν) :
    find k (t.map fun e => (e.1, f e.2)) = (find k t).map f := by
  induction t with
  | nil => rfl
  | cons e t ih =>
    rw [List.map_cons, find, find, ih]
    split <;> rfl

theorem put_map (f : ν → μ) (k : κ) (v : ν) (t : Table κ ν) :
    put k (f v) (t.map fun e => (e.1, f e.2)) = (put k v t).map fun e => (e.1, f e.2) := by
  induction t with
  | nil => rfl
  | cons e t ih =>
    rw [List.map_cons, put, put, ih]
    split <;> rfl

theorem putAll_map (f : ν → μ) (entries : List (κ × ν)) :
    ∀ t : Table κ ν, putAll (t.map fun e => (e.1, f e.2)) (entries.map fun e => (e.1, f e.2)) =
      (putAll t entries).map fun e => (e.1, f e.2) := by
  induction entries with
  | nil => exact fun t => rfl
  | cons e entries ih =>
    intro t
    have h := ih (put e.1 e.2 t)
    rw [← put_map] at h
    exact h

theorem ofEntries_map (f : ν → μ) (entries : List (κ × ν)) :
    ofEntries (entries.map fun e => (e.1, f e.2)) =
      (ofEntries entries).map fun e => (e.1, f e.2) :=
  putAll_map f entries []

theorem mem_of_mem_put {k : κ} {v : ν} {t : Table κ ν} {e : κ × ν} (h : e ∈ put k v t) :
    e ∈ t ∨ e = (k, v) := by
  induction t with
  | nil => exact .inr (by simpa [put] using h)
  | cons d t ih =>
    rw [put] at h
    split at h
    · next hk =>
      rcases List.mem_cons.1 h with h | h
      · exact .inr (by rw [h, hk])
      · exact .inl (List.mem_cons_of_mem d h)
    · rcases List.mem_cons.1 h with h | h
      · exact .inl (h ▸ List.mem_cons_self)
      · exact (ih h).imp_left (List.mem_cons_of_mem d)

/-- What holds of all entries and of one more holds of the table with that one. -/
theorem forall_mem_put {P : κ × ν → Prop} {k : κ} {v : ν} {t : Table κ ν} (h : ∀ e ∈ t, P e)
    (hnew : P (k, v)) : ∀ e ∈ put k v t, P e := by
  intro e he
  rcases mem_of_mem_put he with he | rfl
  · exact h e he
  · exact hnew

/-- The entries of a table are among those of which it was made. -/
theorem mem_of_mem_putAll {entries : List (κ × ν)} {e : κ × ν} :
    ∀ {t : Table κ ν}, e ∈ putAll t entries → e ∈ t ∨ e ∈ entries := by
  induction entries with
  | nil => exact fun h => .inl h
  | cons d entries ih =>
    intro t h
    rcases ih h with h | h
    · rcases mem_of_mem_put h with h | rfl
      · exact .inl h
      · exact .inr List.mem_cons_self
    · exact .inr (List.mem_cons_of_mem d h)

theorem Distinct.putAll (entries : List (κ × ν)) :
    ∀ {t : Table κ ν}, t.Distinct → (Table.putAll t entries).Distinct := by
  induction entries with
  | nil => exact fun h => h
  | cons d entries ih => exact fun h => ih (h.put d.1 d.2)

theorem mem_keys_put {k k' : κ} {v : ν} {t : Table κ ν} :
    k' ∈ keys (put k v t) ↔ k' ∈ keys t ∨ k' = k := by
  rw [keys_put]
  split
  · next hk =>
    constructor
    · exact .inl
    · rintro (h | rfl)
      · exact h
      · exact hk
  · rw [List.mem_append, List.mem_singleton]

/-- The keys of a table are those of the entries of which it was made. -/
theorem mem_keys_putAll {entries : List (κ × ν)} {k : κ} :
    ∀ {t : Table κ ν}, k ∈ keys (putAll t entries) ↔ k ∈ keys t ∨ k ∈ keys entries := by
  induction entries with
  | nil => simp [Table.putAll]
  | cons e entries ih =>
    intro t
    have hput : k ∈ keys (putAll (put e.1 e.2 t) entries) ↔ _ := ih
    rw [mem_keys_put, or_assoc] at hput
    rw [keys_cons, List.mem_cons]
    exact hput

/-- Whatever key an entry has, something is found under it. -/
theorem exists_find_ofEntries {entries : List (κ × ν)} {k : κ} (h : k ∈ keys entries) :
    ∃ v, find k (ofEntries entries) = some v :=
  exists_find_iff.2 (mem_keys_putAll.2 (.inr h))

/-- In a table of distinct keys every entry is found. -/
theorem Distinct.find_of_mem {t : Table κ ν} (ht : t.Distinct) {k : κ} {v : ν} (h : (k, v) ∈ t) :
    find k t = some v := by
  induction t with
  | nil => simp at h
  | cons e t ih =>
    obtain ⟨hk, ht⟩ := List.nodup_cons.1 ht
    rw [find]
    rcases List.mem_cons.1 h with rfl | h
    · simp
    · rw [if_neg, ih ht h]
      rintro rfl
      exact hk (List.mem_map.2 ⟨_, h, rfl⟩)

/-- If no key is written twice, every entry is found. -/
theorem Distinct.find_ofEntries {entries : Table κ ν} (h : entries.Distinct) {k : κ} {v : ν}
    (hmem : (k, v) ∈ entries) : find k (ofEntries entries) = some v := by
  obtain ⟨v', hfind⟩ := exists_find_ofEntries (List.mem_map_of_mem (f := Prod.fst) hmem)
  rcases mem_of_mem_putAll (mem_of_find_eq_some hfind) with hnil | hmem'
  · cases hnil
  · rw [hfind, ← h.find_of_mem hmem', h.find_of_mem hmem]

theorem Distinct.find_eq_some_iff {t : Table κ ν} (ht : t.Distinct) {k : κ} {v : ν} :
    find k t = some v ↔ (k, v) ∈ t :=
  ⟨mem_of_find_eq_some, ht.find_of_mem⟩

omit [DecidableEq κ] in
theorem Distinct.of_perm {t t' : Table κ ν} (ht : t.Distinct) (h : t.Perm t') : t'.Distinct :=
  (h.map Prod.fst).nodup_iff.1 ht

/-- Tables of distinct keys have the same entries in some order if they find the same. -/
theorem Distinct.perm_iff {t t' : Table κ ν} (ht : t.Distinct) (ht' : t'.Distinct) :
    t.Perm t' ↔ ∀ k, find k t = find k t' := by
  rw [List.perm_ext_iff_of_nodup (List.Nodup.of_map Prod.fst ht) (List.Nodup.of_map Prod.fst ht')]
  constructor
  · intro h k
    ext v
    rw [ht.find_eq_some_iff, ht'.find_eq_some_iff]
    exact h (k, v)
  · rintro h ⟨k, v⟩
    rw [← ht.find_eq_some_iff, ← ht'.find_eq_some_iff, h]

/-! ## Tables that agree -/

/-- The same keys in the same order, with related values under them. -/
abbrev Rel {κ ν μ : Type} (R : ν → μ → Prop) (t : Table κ ν) (t' : Table κ μ) : Prop :=
  List.Forall₂ (fun e e' => e.1 = e'.1 ∧ R e.2 e'.2) t t'

section

variable {R : ν → μ → Prop} {t : Table κ ν} {t' : Table κ μ}

theorem Rel.find (h : Rel R t t') (k : κ) : Option.Rel R (Table.find k t) (Table.find k t') := by
  induction h with
  | nil => exact .none
  | @cons e e' t t' he _ ih =>
    obtain ⟨k', v⟩ := e
    obtain ⟨_, w⟩ := e'
    obtain ⟨rfl, hv⟩ := he
    rw [Table.find, Table.find]
    split
    · exact .some hv
    · exact ih

theorem Rel.put (h : Rel R t t') (k : κ) {v : ν} {w : μ} (hv : R v w) :
    Rel R (Table.put k v t) (Table.put k w t') := by
  induction h with
  | nil => exact .cons ⟨rfl, hv⟩ .nil
  | @cons e e' t t' he ht ih =>
    obtain ⟨k', v'⟩ := e
    obtain ⟨_, w'⟩ := e'
    obtain ⟨rfl, hv'⟩ := he
    rw [Table.put, Table.put]
    split
    · exact .cons ⟨rfl, hv⟩ ht
    · exact .cons ⟨rfl, hv'⟩ ih

omit [DecidableEq κ] in
theorem Rel.keys (h : Rel R t t') : keys t = keys t' := by
  induction h with
  | nil => rfl
  | cons he _ ih => rw [keys_cons, keys_cons, he.1, ih]

omit [DecidableEq κ] in
theorem Rel.values (h : Rel R t t') : List.Forall₂ R (values t) (values t') :=
  List.forall₂_map_left_iff.2 (List.forall₂_map_right_iff.2
    (List.Forall₂.imp (fun _ _ he => he.2) h))

omit [DecidableEq κ] in
theorem Rel.of_keys_values (hk : Table.keys t = Table.keys t')
    (hv : List.Forall₂ R (Table.values t) (Table.values t')) : Rel R t t' := by
  induction t generalizing t' with
  | nil =>
    obtain rfl : t' = [] := List.map_eq_nil_iff.1 hk.symm
    exact .nil
  | cons e t ih =>
    obtain ⟨e', t', rfl, he, ht⟩ := List.map_eq_cons_iff.1 hk.symm
    obtain ⟨hv, hvs⟩ := List.forall₂_cons.1 hv
    exact .cons ⟨he.symm, hv⟩ (ih ht.symm hvs)

omit [DecidableEq κ] in
theorem Rel.map {ν' μ' : Type} {S : ν' → μ' → Prop} {f : ν → ν'} {g : μ → μ'}
    (h : Rel R t t') (hfg : ∀ v w, R v w → S (f v) (g w)) :
    Rel S (t.map fun e => (e.1, f e.2)) (t'.map fun e => (e.1, g e.2)) :=
  List.forall₂_map_left_iff.2 (List.forall₂_map_right_iff.2
    (h.imp fun _ _ he => ⟨he.1, hfg _ _ he.2⟩))

omit [DecidableEq κ] in
theorem Rel.imp {S : ν → μ → Prop} (h : Rel R t t') (hRS : ∀ v w, R v w → S v w) : Rel S t t' :=
  List.Forall₂.imp (fun _ _ he => ⟨he.1, hRS _ _ he.2⟩) h

end

end Table

end SequenceApi
