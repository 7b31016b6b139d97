/-!
# Tables

A finite map that keeps the order in which its keys came: a list of keys with their values. Writing
under a key that is there replaces the value and leaves the key in its place.

## Main definitions

* `Table κ ν`: entries in order
* `Table.find`, `Table.has`, `Table.put`, `Table.erase`: look up, test, write and remove
* `Table.ofEntries`: a table from entries that may repeat a key; the last value counts
* `Table.Distinct`: no key occurs twice

## Main results

* `Table.find_put_self`, `Table.find_put_of_ne`: what a write changes
* `Table.find_erase_self`, `Table.find_erase_of_ne`: what a removal changes
* `Table.keys_put`: a write adds at most its own key, at the end
* `Table.Distinct.put`: writing keeps keys distinct
-/

namespace SequenceApi

/-- A finite map in the order of its keys' first writing. -/
abbrev Table (κ ν : Type) := List (κ × ν)

namespace Table

variable {κ ν : Type}

/-- The keys in order. -/
def keys (t : Table κ ν) : List κ :=
  t.map Prod.fst

/-- The values in order. -/
def values (t : Table κ ν) : List ν :=
  t.map Prod.snd

/-- No key occurs twice. -/
def Distinct (t : Table κ ν) : Prop :=
  (keys t).Nodup

@[simp] theorem keys_nil : keys ([] : Table κ ν) = [] := rfl

@[simp] theorem keys_cons (e : κ × ν) (t : Table κ ν) : keys (e :: t) = e.1 :: keys t := rfl

variable [DecidableEq κ]

/-- The value under a key. -/
def find (k : κ) : Table κ ν → Option ν
  | [] => none
  | (k', v) :: t => if k = k' then some v else find k t

/-- A key of the table. -/
def has (k : κ) (t : Table κ ν) : Bool :=
  (find k t).isSome

/-- The table with `v` under the key `k`, at the place of that key or at the end. -/
def put (k : κ) (v : ν) : Table κ ν → Table κ ν
  | [] => [(k, v)]
  | (k', v') :: t => if k = k' then (k', v) :: t else (k', v') :: put k v t

/-- The table without the key `k`. -/
def erase (k : κ) (t : Table κ ν) : Table κ ν :=
  t.filter fun e => k ≠ e.1

/-- The entries written one after another. -/
def putAll (t : Table κ ν) (entries : List (κ × ν)) : Table κ ν :=
  entries.foldl (fun t e => put e.1 e.2 t) t

/-- The table of entries that may repeat a key: the first place and the last value. -/
def ofEntries (entries : List (κ × ν)) : Table κ ν :=
  putAll [] entries

/-! ## Reading what was written -/

@[simp] theorem find_nil (k : κ) : find k ([] : Table κ ν) = none := rfl

theorem find_put_self (k : κ) (v : ν) (t : Table κ ν) : find k (put k v t) = some v := by
  induction t with
  | nil => simp [put, find]
  | cons e t ih =>
    obtain ⟨k', v'⟩ := e
    by_cases h : k = k' <;> simp [put, find, h, ih]

theorem find_put_of_ne {k k' : κ} (h : k' ≠ k) (v : ν) (t : Table κ ν) :
    find k' (put k v t) = find k' t := by
  induction t with
  | nil => simp [put, find, h]
  | cons e t ih =>
    obtain ⟨k₁, v₁⟩ := e
    by_cases h₁ : k = k₁
    · subst h₁
      simp [put, find, h]
    · by_cases h₂ : k' = k₁ <;> simp [put, find, h₁, h₂, ih]

theorem find_erase_self (k : κ) (t : Table κ ν) : find k (erase k t) = none := by
  induction t with
  | nil => rfl
  | cons e t ih =>
    obtain ⟨k', v⟩ := e
    by_cases h : k = k' <;> simpa [erase, find, h] using ih

theorem find_erase_of_ne {k k' : κ} (h : k' ≠ k) (t : Table κ ν) :
    find k' (erase k t) = find k' t := by
  induction t with
  | nil => rfl
  | cons e t ih =>
    obtain ⟨k₁, v⟩ := e
    by_cases h₁ : k = k₁
    · subst h₁
      simpa [erase, find, h] using ih
    · by_cases h₂ : k' = k₁
      · simp [erase, find, h₁, h₂]
      · simpa [erase, find, h₁, h₂] using ih

theorem find_eq_none_iff {k : κ} {t : Table κ ν} : find k t = none ↔ k ∉ keys t := by
  induction t with
  | nil => simp
  | cons e t ih =>
    obtain ⟨k', v⟩ := e
    by_cases h : k = k' <;> simp [find, h, ih]

theorem keys_put (k : κ) (v : ν) (t : Table κ ν) :
    keys (put k v t) = if k ∈ keys t then keys t else keys t ++ [k] := by
  induction t with
  | nil => simp [put]
  | cons e t ih =>
    obtain ⟨k', v'⟩ := e
    by_cases h : k = k'
    · subst h
      simp [put]
    · by_cases hm : k ∈ keys t <;> simp [put, h, ih, hm]

theorem Distinct.put {t : Table κ ν} (h : Distinct t) (k : κ) (v : ν) :
    Distinct (Table.put k v t) := by
  rw [Distinct, keys_put]
  split
  · exact h
  · next hk =>
    refine List.nodup_append.2 ⟨h, by simp, ?_⟩
    rintro a ha b hb rfl
    exact hk (List.mem_singleton.1 hb ▸ ha)

end Table

end SequenceApi
