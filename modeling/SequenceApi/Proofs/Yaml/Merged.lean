import Mathlib.Algebra.BigOperators.Fin
import Mathlib.Algebra.Order.BigOperators.Group.Finset
import SequenceApi.Proofs.Contract
import SequenceApi.Yaml.Merge

/-!
# Taking over ends

A mapping that takes over entries removes the key that names its sources before it looks at them,
and what it takes over has no such key any more. So their number goes down from step to step, also
where mappings name each other or themselves, and the steps suffice: all that can be wrong is a
source that is no mapping.

## Main definitions

* `Vertex.IsLike`: a node with other entries
* `Graph.pending`, `Graph.allPending`: the sources that are still to be taken over
* `Graph.Settles`: a graph with no more of them than another one

## Main results

* `Graph.meets_merged`: one mapping has taken over its entries
* `Graph.meets_withMerged`: the steps suffice
-/

namespace SequenceApi.Yaml

/-- The same tag, but for the one of the key of a default value, which may become a text. -/
def Tag.Becomes (t t' : Tag) : Prop :=
  t' = t ∨ (t = .form .value ∧ t' = .form .text)

theorem Tag.Becomes.trans {t t' t'' : Tag} (h : t.Becomes t') (h' : t'.Becomes t'') :
    t.Becomes t'' := by
  rcases h with rfl | ⟨hvalue, rfl⟩
  · exact h'
  · rcases h' with rfl | ⟨h', -⟩
    · exact .inr ⟨hvalue, rfl⟩
    · cases h'

/-- The same node, but for its tag perhaps, and for its entries if it is a mapping. -/
def Vertex.IsLike : Vertex → Vertex → Prop
  | .scalar t s, .scalar t' s' => t.Becomes t' ∧ s' = s
  | .seq t l, .seq t' l' => t.Becomes t' ∧ l' = l
  | .map t _, .map t' _ => t.Becomes t'
  | _, _ => False

namespace Vertex

variable {v v' v'' : Vertex}

theorem IsLike.refl (v : Vertex) : v.IsLike v := by
  cases v with
  | scalar => exact ⟨.inl rfl, rfl⟩
  | seq => exact ⟨.inl rfl, rfl⟩
  | map => exact .inl rfl

theorem IsLike.trans (h : v.IsLike v') (h' : v'.IsLike v'') : v.IsLike v'' := by
  cases v <;> cases v' <;> try exact h.elim
  all_goals cases v'' <;> try exact h'.elim
  · exact ⟨h.1.trans h'.1, h'.2.trans h.2⟩
  · exact ⟨h.1.trans h'.1, h'.2.trans h.2⟩
  · exact Tag.Becomes.trans h h'

theorem IsLike.tag (h : v.IsLike v') : v.tag.Becomes v'.tag := by
  cases v <;> cases v' <;> try exact h.elim
  · exact h.1
  · exact h.1
  · exact h

theorem IsLike.isMap (h : v.IsLike v') : v'.isMap = v.isMap := by
  cases v <;> cases v' <;> first | rfl | exact h.elim

theorem isLike_asTextKey (v : Vertex) : v.IsLike v.asTextKey := by
  unfold asTextKey
  split
  · exact ⟨.inr ⟨rfl, rfl⟩, rfl⟩
  · exact ⟨.inr ⟨rfl, rfl⟩, rfl⟩
  · exact .inr ⟨rfl, rfl⟩
  · exact .refl v

theorem entries_asTextKey (v : Vertex) : v.asTextKey.entries = v.entries := by
  unfold asTextKey
  split <;> rfl

end Vertex

namespace Graph

/-- An entry that names sources. -/
def isMerge (g : Graph) (e : Nat × Nat) : Bool :=
  g.tag e.1 == .form .merge

/-- The number of entries of a node that name sources. -/
def pending (g : Graph) (i : Nat) : Nat :=
  (g.entries i).countP g.isMerge

/-- The number of entries of all nodes that name sources. -/
def allPending (g : Graph) : Nat :=
  ∑ i ∈ Finset.range g.size, g.pending i

/-- The same nodes, where a node that names no sources still names none, and all together name no
more of them than before. -/
structure Settles (g g' : Graph) : Prop where
  vertex : ∀ i : Nat, Option.Rel Vertex.IsLike g[i]? g'[i]?
  pending : ∀ i, g.pending i = 0 → g'.pending i = 0
  all : g'.allPending ≤ g.allPending

variable {g g' g'' : Graph} {i : Nat} {es : List (Nat × Nat)}

theorem isLike_refl (g : Graph) (i : Nat) : Option.Rel Vertex.IsLike g[i]? g[i]? := by
  cases g[i]? with
  | none => exact .none
  | some v => exact .some (.refl v)

theorem isMerge_eq (h : ∀ i, (g.tag i).Becomes (g'.tag i)) : g'.isMerge = g.isMerge := by
  funext e
  rcases h e.1 with heq | ⟨hvalue, htext⟩
  · rw [isMerge, heq, isMerge]
  · rw [isMerge, htext, isMerge, hvalue]
    rfl

theorem becomes_tag (h : Option.Rel Vertex.IsLike g[i]? g'[i]?) : (g.tag i).Becomes (g'.tag i) := by
  rw [tag, tag]
  generalize g[i]? = a at h
  generalize g'[i]? = b at h
  cases h with
  | some h => exact h.tag
  | none => exact .inl rfl

namespace Settles

theorem refl (g : Graph) : Settles g g :=
  ⟨isLike_refl g, fun _ => id, Nat.le_refl _⟩

theorem trans (h : Settles g g') (h' : Settles g' g'') : Settles g g'' := by
  refine ⟨fun i => ?_, fun i hi => h'.pending i (h.pending i hi), Nat.le_trans h'.all h.all⟩
  have hi := h.vertex i
  have hi' := h'.vertex i
  generalize g[i]? = a at hi ⊢
  generalize g'[i]? = b at hi hi'
  generalize g''[i]? = c at hi' ⊢
  cases hi with
  | none => exact hi'
  | some hv =>
    cases hi' with
    | some hv' => exact .some (hv.trans hv')

theorem isMerge (h : Settles g g') : g'.isMerge = g.isMerge :=
  isMerge_eq fun i => becomes_tag (h.vertex i)

theorem isMap (h : Settles g g') (i : Nat) : g'.isMap i = g.isMap i := by
  have hi := h.vertex i
  rw [Graph.isMap, Graph.isMap]
  generalize g[i]? = a at hi
  generalize g'[i]? = b at hi
  cases hi with
  | some hv => exact hv.isMap
  | none => rfl

end Settles

/-! ## Other entries -/

theorem exists_of_isMap (h : g.isMap i = true) : ∃ t es, g[i]? = some (.map t es) := by
  rw [isMap] at h
  cases hv : g[i]? with
  | none => rw [hv] at h; cases h
  | some v =>
    rw [hv] at h
    cases v with
    | map t es => exact ⟨t, es, rfl⟩
    | scalar => cases h
    | seq => cases h

theorem lt_size_of_isMap (h : g.isMap i = true) : i < g.size := by
  obtain ⟨t, es, hv⟩ := exists_of_isMap h
  exact (Array.getElem?_eq_some_iff.1 hv).1

theorem isMap_of_entries (h : g.entries i ≠ []) : g.isMap i = true := by
  rw [entries] at h
  rw [isMap]
  cases hv : g[i]? with
  | none => rw [hv] at h; exact absurd rfl h
  | some v =>
    rw [hv] at h
    cases v with
    | map => rfl
    | scalar => exact absurd rfl h
    | seq => exact absurd rfl h

/-- What is read off other entries of a mapping. -/
theorem isLike_setEntries (hmap : g.isMap i = true) (es : List (Nat × Nat)) (j : Nat) :
    Option.Rel Vertex.IsLike g[j]? (g.setEntries i es)[j]? := by
  by_cases hij : i = j
  · subst hij
    obtain ⟨t, es', hv⟩ := exists_of_isMap hmap
    rw [setEntries, Array.getElem?_setIfInBounds_self_of_lt (lt_size_of_isMap hmap), hv]
    refine .some (.inl ?_)
    rw [tag, hv]
    rfl
  · rw [setEntries, Array.getElem?_setIfInBounds_ne hij]
    exact isLike_refl g j

theorem entries_setEntries_self (hi : i < g.size) (es : List (Nat × Nat)) :
    (g.setEntries i es).entries i = es := by
  rw [entries, setEntries, Array.getElem?_setIfInBounds_self_of_lt hi]
  rfl

theorem entries_setEntries_of_ne {j : Nat} (hij : j ≠ i) (es : List (Nat × Nat)) :
    (g.setEntries i es).entries j = g.entries j := by
  rw [entries, setEntries, Array.getElem?_setIfInBounds_ne hij.symm, entries]

section

variable (hmap : g.isMap i = true) (es : List (Nat × Nat))

include hmap

theorem isMerge_setEntries : (g.setEntries i es).isMerge = g.isMerge :=
  isMerge_eq fun j => becomes_tag (isLike_setEntries hmap es j)

theorem pending_setEntries_self : (g.setEntries i es).pending i = es.countP g.isMerge := by
  rw [pending, entries_setEntries_self (lt_size_of_isMap hmap), isMerge_setEntries hmap]

theorem pending_setEntries_of_ne {j : Nat} (hij : j ≠ i) :
    (g.setEntries i es).pending j = g.pending j := by
  rw [pending, entries_setEntries_of_ne hij, isMerge_setEntries hmap, pending]

/-- Where a mapping gets other entries, the number of entries with sources changes by theirs. -/
theorem allPending_setEntries :
    (g.setEntries i es).allPending + g.pending i = g.allPending + es.countP g.isMerge := by
  have hmem : i ∈ Finset.range g.size := Finset.mem_range.2 (lt_size_of_isMap hmap)
  have hsize : (g.setEntries i es).size = g.size := Array.size_setIfInBounds
  rw [allPending, hsize, allPending, ← Finset.add_sum_erase _ _ hmem,
    ← Finset.add_sum_erase _ g.pending hmem, pending_setEntries_self hmap,
    Finset.sum_congr rfl fun j hj =>
      pending_setEntries_of_ne hmap es (Finset.ne_of_mem_erase hj)]
  omega

/-- No more entries with sources than before. -/
theorem settles_setEntries (hes : es.countP g.isMerge ≤ g.pending i) :
    Settles g (g.setEntries i es) := by
  refine ⟨isLike_setEntries hmap es, fun j hj => ?_, ?_⟩
  · by_cases hij : j = i
    · subst hij
      rw [pending_setEntries_self hmap]
      omega
    · rw [pending_setEntries_of_ne hmap es hij, hj]
  · have hall := allPending_setEntries hmap es
    omega

end

/-! ## Keys as texts -/

theorem isLike_modify (g : Graph) (i j : Nat) :
    Option.Rel Vertex.IsLike g[j]? (g.modify i Vertex.asTextKey)[j]? := by
  rw [Array.getElem?_modify]
  split
  · cases g[j]? with
    | none => exact .none
    | some v => exact .some v.isLike_asTextKey
  · exact isLike_refl g j

theorem pending_modify (g : Graph) (i j : Nat) :
    pending (g.modify i Vertex.asTextKey) j = g.pending j := by
  have hentries : entries (g.modify i Vertex.asTextKey) j = g.entries j := by
    rw [entries, Array.getElem?_modify, entries]
    split
    · cases g[j]? with
      | none => rfl
      | some v => exact v.entries_asTextKey
    · rfl
  rw [pending, hentries, isMerge_eq fun k => becomes_tag (isLike_modify g i k), pending]

/-- Keys that become texts name no sources before and after. -/
theorem settles_withTextKeys (g : Graph) (es : List (Nat × Nat)) :
    Settles g (g.withTextKeys es) := by
  induction es generalizing g with
  | nil => exact .refl g
  | cons e es ih =>
    refine Settles.trans ⟨isLike_modify g e.1, fun j hj => ?_, Nat.le_of_eq ?_⟩ (ih _)
    · exact (pending_modify g e.1 j).trans hj
    · rw [allPending, Array.size_modify, allPending,
        Finset.sum_congr rfl fun j _ => pending_modify g e.1 j]

/-! ## Sources -/

theorem countP_of_nextSource?_eq_none (h : g.nextSource? es = none) :
    es.countP g.isMerge = 0 := by
  induction es with
  | nil => rfl
  | cons e es ih =>
    rw [nextSource?] at h
    split at h
    · cases h
    · next htag =>
      rw [List.countP_cons, ih (Option.map_eq_none_iff.1 h), isMerge]
      simp [htag]

theorem countP_of_nextSource?_eq_some {value : Nat} {own : List (Nat × Nat)}
    (h : g.nextSource? es = some (value, own)) :
    own.countP g.isMerge + 1 = es.countP g.isMerge := by
  induction es generalizing own with
  | nil => cases h
  | cons e es ih =>
    rw [nextSource?] at h
    split at h
    · next htag =>
      obtain ⟨-, rfl⟩ := Prod.mk.inj (Option.some.inj h)
      rw [List.countP_cons, isMerge]
      simp [htag]
    · obtain ⟨⟨value', rest⟩, hrest, heq⟩ := Option.map_eq_some_iff.1 h
      obtain ⟨rfl, rfl⟩ := Prod.mk.inj heq
      rw [List.countP_cons, List.countP_cons, ← ih hrest]
      omega

/-- Sources one after the other, each of which takes over its own entries. -/
theorem meets_foldlM {f : Graph → Nat → Except ReadError Graph} {bound : Nat}
    (hf : ∀ g s, g.allPending < bound →
      Meets (· = .malformed) (f g s) fun g' => Settles g g' ∧ g'.pending s = 0)
    (sources : List Nat) (hg : g.allPending < bound) :
    Meets (· = .malformed) (sources.foldlM f g) fun g' =>
      Settles g g' ∧ ∀ s ∈ sources, g'.pending s = 0 := by
  induction sources generalizing g with
  | nil => exact ⟨.refl g, fun _ h => by cases h⟩
  | cons s sources ih =>
    rw [List.foldlM_cons]
    refine (hf g s hg).bind fun g₁ h₁ => ?_
    refine (ih (Nat.lt_of_le_of_lt h₁.1.all hg)).mono fun g₂ h₂ =>
      ⟨h₁.1.trans h₂.1, fun s' hs' => ?_⟩
    rcases List.mem_cons.1 hs' with rfl | hs'
    · exact h₂.1.pending s' h₁.2
    · exact h₂.2 s' hs'

/-- What is taken over from sources that name no sources, with entries that name none. -/
theorem Settles.countP_taken {sources : List Nat} (h : Settles g g')
    (hsources : ∀ s ∈ sources, g.pending s = 0) (hi : g'.pending i = 0) :
    (sources.reverse.flatMap g.entries ++ g'.entries i).countP g'.isMerge = 0 := by
  rw [List.countP_append, show (g'.entries i).countP g'.isMerge = 0 from hi, h.isMerge,
    Nat.add_zero, List.countP_eq_zero]
  intro e he
  obtain ⟨s, hs, hes⟩ := List.mem_flatMap.1 he
  exact List.countP_eq_zero.1 (hsources s (List.mem_reverse.1 hs)) e hes

/-- A mapping has taken over its entries: it names no sources any more. With more steps than sources
are left to be taken over, nothing else stops it than a source that is no mapping. -/
theorem meets_merged (n i : Nat) (g : Graph) (hn : g.allPending < n) :
    Meets (· = .malformed) (merged n i g) fun g' => Settles g g' ∧ g'.pending i = 0 := by
  induction n generalizing i g with
  | zero => exact absurd hn (Nat.not_lt_zero _)
  | succ n ih =>
    rw [merged]
    split
    · next hnone =>
      have hkeys := settles_withTextKeys g (g.entries i)
      exact ⟨hkeys, hkeys.pending i (countP_of_nextSource?_eq_none hnone)⟩
    · next value own hsome =>
      have hcount : own.countP g.isMerge + 1 = g.pending i := countP_of_nextSource?_eq_some hsome
      have hmap : g.isMap i = true := isMap_of_entries fun hnil => by
        rw [pending, hnil] at hcount
        cases hcount
      split
      · exact rfl
      · next sources _ =>
        -- The key that names the sources is removed first, so that one step less suffices.
        have hown := settles_setEntries hmap own (by omega)
        have hless := allPending_setEntries hmap own
        refine (meets_foldlM (fun g s => ih s g) sources (by omega)).bind fun g₁ h₁ => ?_
        have hle := h₁.1.all
        refine (ih i g₁ (by omega)).bind fun g₂ h₂ => ?_
        have hsettles := (hown.trans h₁.1).trans h₂.1
        have hmap₂ : g₂.isMap i = true := (hsettles.isMap i).trans hmap
        have htaken := h₂.1.countP_taken h₁.2 h₂.2
        refine ⟨hsettles.trans (settles_setEntries hmap₂ _ (by omega)), ?_⟩
        rw [pending_setEntries_self hmap₂, htaken]

theorem entryCount_eq (g : Graph) :
    g.entryCount = ∑ i ∈ Finset.range g.size, (g.entries i).length := by
  have hfold : g.entryCount = (g.toList.map fun v => v.entries.length).sum := by
    rw [List.sum_eq_foldl, List.foldl_map, Array.foldl_toList, entryCount]
  rw [hfold, ← Fin.sum_univ_fun_getElem g.toList fun v => v.entries.length, Finset.sum_range]
  refine Finset.sum_congr rfl fun i _ => ?_
  rw [entries, Array.getElem?_eq_getElem i.isLt]
  rfl

theorem allPending_le_entryCount (g : Graph) : g.allPending ≤ g.entryCount := by
  rw [entryCount_eq]
  exact Finset.sum_le_sum fun i _ => List.countP_le_length

/-- The steps suffice for a mapping to take over its entries. -/
theorem meets_withMerged (g : Graph) (i : Nat) :
    Meets (· = .malformed) (g.withMerged i) (Settles g) :=
  (meets_merged _ i g (Nat.lt_succ_of_le (allPending_le_entryCount g))).mono fun _ h => h.1

end Graph

end SequenceApi.Yaml
