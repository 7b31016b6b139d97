import Mathlib.Data.List.Chain
import Mathlib.Data.List.Perm.Subperm
import Mathlib.Data.List.Rotate
import SequenceApi.Proofs.Table
import SequenceApi.Reference.Cycle

/-!
# Chains that close

The search for cycles follows references from schema to schema, and stops at a reference that its
chain already holds. Its bound is never in the way: the references of a chain are different keys of
the graph, so a chain that is as long as the graph holds every key. The cycles that the search finds
are therefore all closed walks of which only the last reference stands twice, except for a chain
that is one reference with a schema that refers to itself.

Of the cycles that are found, those with one loop up to a rotation have one key, since the
references of a loop are different. Keeping the first cycle of each key keeps each loop once.

## Main definitions

* `ReferenceGraph.Leads`: the edges of the graph
* `ReferenceGraph.Follows`: a walk that starts with one of some references
* `ReferenceGraph.IsClosing`: a chain that closes

## Main results

* `ReferenceGraph.mem_closingsFrom_iff`: the search finds the chains that close
* `Cycle.key_eq_key_iff`: equal keys are loops that differ by a rotation
* `Cycle.count_key_distinct`: each key is kept once
-/

namespace SequenceApi

namespace ReferenceGraph

/-! ## Walks -/

/-- The first schema refers to the second one. -/
def Leads (g : ReferenceGraph) (a b : String) : Prop :=
  ∃ next, Table.find a g = some next ∧ b ∈ next ∧ b ∈ Table.keys g

/-- The walk starts with one of the references, and goes on from schema to schema. -/
def Follows (g : ReferenceGraph) : List String → List String → Prop
  | _, [] => True
  | refs, a :: walk => a ∈ refs ∧ ∃ next, Table.find a g = some next ∧ g.Follows next walk

@[simp] theorem follows_nil (g : ReferenceGraph) (refs : List String) : g.Follows refs [] := trivial

theorem follows_cons {g : ReferenceGraph} {refs walk : List String} {a : String} :
    g.Follows refs (a :: walk) ↔
      a ∈ refs ∧ ∃ next, Table.find a g = some next ∧ g.Follows next walk :=
  Iff.rfl

/-- To follow references is to start with one, and to take one edge after another. -/
theorem follows_cons_iff_isChain {g : ReferenceGraph} (walk : List String) :
    ∀ {refs : List String} {a : String},
      g.Follows refs (a :: walk) ↔
        a ∈ refs ∧ a ∈ Table.keys g ∧ (a :: walk).IsChain g.Leads := by
  -- Induction on the walk; each step has other references to choose from.
  induction walk with
  | nil => simp [follows_cons, Table.exists_find_iff]
  | cons b walk ih =>
    intro refs a
    rw [follows_cons, List.isChain_cons_cons]
    constructor
    · rintro ⟨ha, next, hn, hf⟩
      obtain ⟨hb, hk, hc⟩ := ih.1 hf
      exact ⟨ha, Table.exists_find_iff.1 ⟨next, hn⟩, ⟨next, hn, hb, hk⟩, hc⟩
    · rintro ⟨ha, -, ⟨next, hn, hb, hk⟩, hc⟩
      exact ⟨ha, next, hn, ih.2 ⟨hb, hk, hc⟩⟩

/-! ## The search -/

/-- A chain that follows some references after others, holds no reference twice, and comes back to
one of its own, though not from a schema to itself at its start. -/
structure ClosesAfter (g : ReferenceGraph) (chain refs : List String) (c : Cycle) : Prop where
  follows : ∃ more, c.chain = chain ++ more ∧ g.Follows refs (more ++ [c.ref])
  nodup : c.chain.Nodup
  closes : c.ref ∈ c.chain
  ne_singleton : c.chain ≠ [c.ref]

/-- A chain that closes, from its start. -/
abbrev IsClosing (g : ReferenceGraph) (refs : List String) (c : Cycle) : Prop :=
  g.ClosesAfter [] refs c

theorem mem_closing_iff {chain : List String} {ref : String} {c : Cycle} :
    c ∈ closing chain ref ↔ c = ⟨chain, ref⟩ ∧ chain ≠ [ref] := by
  rw [closing]
  split <;> simp_all

section

variable {g : ReferenceGraph} {chain refs : List String} {ref : String} {c : Cycle}

/-- A reference that the chain holds closes it. -/
theorem closesAfter_of_mem (hd : chain.Nodup) (hk : chain ⊆ Table.keys g) (href : ref ∈ refs)
    (hm : ref ∈ chain) (hc : c ∈ closing chain ref) : g.ClosesAfter chain refs c := by
  obtain ⟨rfl, hne⟩ := mem_closing_iff.1 hc
  obtain ⟨next, hn⟩ := Table.exists_find_iff.2 (hk hm)
  exact ⟨⟨[], (List.append_nil _).symm, href, next, hn, trivial⟩, hd, hm, hne⟩

/-- With another reference the chain goes on. -/
theorem ClosesAfter.cons {next : List String} (href : ref ∈ refs)
    (hn : Table.find ref g = some next) (hc : g.ClosesAfter (chain ++ [ref]) next c) :
    g.ClosesAfter chain refs c := by
  obtain ⟨⟨more, he, hf⟩, hd, hr, hne⟩ := hc
  exact ⟨⟨ref :: more, by simpa using he, href, next, hn, hf⟩, hd, hr, hne⟩

/-- A chain closes at once or goes on. -/
theorem ClosesAfter.cases (hc : g.ClosesAfter chain refs c) :
    (∃ ref ∈ refs, ref ∈ chain ∧ c ∈ closing chain ref) ∨
      ∃ ref ∈ refs, (chain ++ [ref]).Nodup ∧ ∃ next, Table.find ref g = some next ∧
        g.ClosesAfter (chain ++ [ref]) next c := by
  obtain ⟨⟨more, he, hf⟩, hd, hr, hne⟩ := hc
  cases more with
  | nil =>
    -- nothing follows: the chain closes here
    obtain rfl : c.chain = chain := by simpa using he
    exact .inl ⟨c.ref, hf.1, hr, mem_closing_iff.2 ⟨rfl, hne⟩⟩
  | cons a more =>
    -- a reference follows, and the rest follows what it leads to
    obtain ⟨ha, next, hn, hf⟩ := hf
    have he' : c.chain = chain ++ [a] ++ more := by simpa using he
    have hd' : (chain ++ [a]).Nodup := (List.nodup_append.1 (he' ▸ hd)).1
    exact .inr ⟨a, ha, hd', next, hn, ⟨more, he', hf⟩, hd, hr, hne⟩

/-- A chain of different keys is no longer than the graph. -/
theorem length_le_of_subset_keys (hd : chain.Nodup) (hk : chain ⊆ Table.keys g) :
    chain.length ≤ g.length := by
  have h := (List.Nodup.subperm hd hk).length_le
  rwa [Table.keys, List.length_map] at h

end

/-- What the search finds after a chain, if its bound leaves room for all keys. -/
theorem mem_closings_iff {g : ReferenceGraph} {c : Cycle} (n : Nat) :
    ∀ {chain refs : List String}, chain.Nodup → chain ⊆ Table.keys g →
      g.length ≤ n + chain.length →
        (c ∈ g.closings n chain refs ↔ g.ClosesAfter chain refs c) := by
  -- one more key fits, and leaves less room
  have hkeys {chain : List String} {ref : String} {next : List String} (hk : chain ⊆ Table.keys g)
      (hn : Table.find ref g = some next) : chain ++ [ref] ⊆ Table.keys g :=
    List.append_subset.2 ⟨hk, by simpa using Table.exists_find_iff.1 ⟨next, hn⟩⟩
  induction n with
  | zero =>
    intro chain refs hd hk hl
    simp only [closings, List.mem_flatMap]
    constructor
    · rintro ⟨ref, href, hc⟩
      split at hc
      · next hm => exact closesAfter_of_mem hd hk href (List.contains_iff_mem.1 hm) hc
      · simp at hc
    · intro hc
      rcases hc.cases with ⟨ref, href, hm, hc⟩ | ⟨ref, -, hd', next, hn, -⟩
      · exact ⟨ref, href, by rwa [if_pos (List.contains_iff_mem.2 hm)]⟩
      · -- no room: a longer chain would hold more keys than there are
        have := length_le_of_subset_keys hd' (hkeys hk hn)
        simp at this
        omega
  | succ n ih =>
    intro chain refs hd hk hl
    simp only [closings, List.mem_flatMap]
    constructor
    · rintro ⟨ref, href, hc⟩
      split at hc
      · next hm => exact closesAfter_of_mem hd hk href (List.contains_iff_mem.1 hm) hc
      · next hm =>
        -- the reference is new to the chain, which goes on behind it
        split at hc
        · next next hn =>
          have hm' : ref ∉ chain := fun h => hm (List.contains_iff_mem.2 h)
          have hd' : (chain ++ [ref]).Nodup := by
            simpa [List.nodup_append, hd] using fun a ha => ne_of_mem_of_not_mem ha hm'
          exact .cons href hn ((ih hd' (hkeys hk hn) (by simp; omega)).1 hc)
        · simp at hc
    · intro hc
      rcases hc.cases with ⟨ref, href, hm, hc⟩ | ⟨ref, href, hd', next, hn, hc⟩
      · exact ⟨ref, href, by rwa [if_pos (List.contains_iff_mem.2 hm)]⟩
      · have hm : ref ∉ chain := fun h =>
          List.disjoint_of_nodup_append hd' h List.mem_cons_self
        refine ⟨ref, href, ?_⟩
        rw [if_neg (by simpa using hm), hn]
        exact (ih hd' (hkeys hk hn) (by simp; omega)).2 hc

/-- The search finds the chains that close. -/
theorem mem_closingsFrom_iff {g : ReferenceGraph} {refs : List String} {c : Cycle} :
    c ∈ g.closingsFrom refs ↔ g.IsClosing refs c :=
  mem_closings_iff g.length List.nodup_nil (by simp) (by simp)

end ReferenceGraph

namespace Cycle

/-! ## Loops -/

/-- A list from a member on starts with that member. -/
theorem exists_dropWhile_eq_cons {l : List String} {s : String} (h : s ∈ l) :
    ∃ t, l.dropWhile (· != s) = s :: t := by
  induction l with
  | nil => simp at h
  | cons a l ih =>
    by_cases ha : a = s
    · exact ⟨l, by simp [ha]⟩
    · rw [List.dropWhile_cons_of_pos (by simpa using ha)]
      exact ih (List.mem_of_ne_of_mem (Ne.symm ha) h)

theorem least_eq_none {l : List String} (h : least l = none) : l = [] := by
  cases l with
  | nil => rfl
  | cons s l =>
    rw [least] at h
    split at h <;> simp at h

theorem least_spec {l : List String} {s : String} (h : least l = some s) :
    s ∈ l ∧ ∀ t ∈ l, s ≤ t := by
  induction l generalizing s with
  | nil => simp [least] at h
  | cons a l ih =>
    rw [least] at h
    split at h
    · next hn =>
      obtain rfl := least_eq_none hn
      obtain rfl : a = s := by simpa using h
      simp
    · next t ht =>
      obtain ⟨hm, hle⟩ := ih ht
      obtain rfl : (if t < a then t else a) = s := by simpa using h
      split
      · next hlt =>
        exact ⟨List.mem_cons_of_mem _ hm,
          List.forall_mem_cons.2 ⟨fun h => String.lt_irrefl t (String.lt_trans hlt h), hle⟩⟩
      · next hlt =>
        have hat : a ≤ t := String.not_lt.1 hlt
        exact ⟨List.mem_cons_self,
          List.forall_mem_cons.2 ⟨String.le_refl a, fun u hu => String.le_trans hat (hle u hu)⟩⟩

/-- Lists with the same members have the same least text. -/
theorem least_congr {l l' : List String} (h : ∀ s, s ∈ l ↔ s ∈ l') : least l = least l' := by
  cases hl : least l with
  | none =>
    obtain rfl := least_eq_none hl
    cases l' with
    | nil => rfl
    | cons a l' => simpa using h a
  | some s =>
    obtain ⟨hm, hle⟩ := least_spec hl
    cases hl' : least l' with
    | none =>
      obtain rfl := least_eq_none hl'
      simpa using (h s).1 hm
    | some t =>
      obtain ⟨hm', hle'⟩ := least_spec hl'
      rw [String.le_antisymm (hle t ((h t).2 hm')) (hle' s ((h s).1 hm))]

/-- The key of a cycle is its loop from another place on. -/
theorem key_isRotated (c : Cycle) : c.key ~r c.loop := by
  rw [key]
  split
  · next hn => rw [least_eq_none hn]
  · next s _ =>
    have h : c.loop.takeWhile (· != s) ++ c.loop.dropWhile (· != s) ~r
        c.loop.dropWhile (· != s) ++ c.loop.takeWhile (· != s) := List.isRotated_append
    rw [List.takeWhile_append_dropWhile] at h
    exact h.symm

/-- A rotation with the same first element is the list itself, if no element stands twice. -/
theorem eq_of_isRotated {l l' : List String} (h : l ~r l') (hd : l.Nodup)
    (hh : l.head? = l'.head?) : l = l' := by
  obtain ⟨n, -, rfl⟩ := List.isRotated_iff_mod.1 h
  rcases eq_or_ne l [] with rfl | hne
  · rfl
  have hpos := List.length_pos_of_ne_nil hne
  have hlt := Nat.mod_lt n hpos
  rw [← List.rotate_mod, List.head?_rotate hlt, List.head?_eq_getElem?,
    List.getElem?_eq_getElem hpos, List.getElem?_eq_getElem hlt, Option.some_inj,
    hd.getElem_inj_iff] at hh
  -- the first elements are the same, and so the rotation is by nothing
  exact ((hd.rotate_eq_self_iff).2 (.inl hh.symm)).symm

/-- A key starts with the least reference of its loop. -/
theorem head?_key (c : Cycle) : c.key.head? = least c.loop := by
  rw [key]
  split
  · next hn => rw [hn, List.head?_nil]
  · next s hs =>
    obtain ⟨t, ht⟩ := exists_dropWhile_eq_cons (least_spec hs).1
    rw [ht, hs, List.cons_append, List.head?_cons]

/-- Equal keys are loops that differ by a rotation. -/
theorem key_eq_key_iff {c c' : Cycle} (hd : c.loop.Nodup) : c.key = c'.key ↔ c.loop ~r c'.loop := by
  constructor
  · intro h
    exact (c.key_isRotated.symm.trans (h ▸ .refl _)).trans c'.key_isRotated
  · intro h
    refine eq_of_isRotated ((c.key_isRotated.trans h).trans c'.key_isRotated.symm)
      (c.key_isRotated.nodup_iff.2 hd) ?_
    rw [head?_key, head?_key, least_congr fun s => h.mem_iff]

/-! ## One cycle of each key -/

theorem mem_of_mem_distinct {cs : List Cycle} {c : Cycle} :
    ∀ {known : List (List String)}, c ∈ distinct known cs → c ∈ cs := by
  induction cs with
  | nil => exact fun h => h
  | cons d cs ih =>
    intro known h
    rw [distinct] at h
    split at h
    · exact List.mem_cons_of_mem d (ih h)
    · exact List.mem_cons.2 ((List.mem_cons.1 h).imp_right ih)

/-- A key that is not known is kept once, if it is there at all. -/
theorem count_key_distinct (key : List String) (cs : List Cycle) :
    ∀ known : List (List String), (distinct known cs).countP (·.key = key) =
      if key ∉ known ∧ key ∈ cs.map Cycle.key then 1 else 0 := by
  induction cs with
  | nil => simp [distinct]
  | cons c cs ih =>
    intro known
    rw [distinct]
    by_cases hk : c.key ∈ known
    · rw [if_pos (List.contains_iff_mem.2 hk), ih]
      by_cases he : key = c.key
      · simp [he, hk]
      · simp [he]
    · rw [if_neg (by simpa using hk), List.countP_cons, ih]
      by_cases he : key = c.key
      · simp [he, hk]
      · simp [he, Ne.symm he]

end Cycle

/-! ## Loops of chains -/

namespace ReferenceGraph

variable {g : ReferenceGraph} {refs : List String} {c : Cycle}

/-- A loop of different members, each of which leads to the next one and the last one to the
first. -/
inductive IsLoop (Edge : String → String → Prop) : List String → Prop where
  | mk {a : String} {rest : List String} (nodup : (a :: rest).Nodup)
      (leads : (a :: rest ++ [a]).IsChain Edge) : IsLoop Edge (a :: rest)

theorem IsClosing.isChain_walk (hc : g.IsClosing refs c) : c.walk.IsChain g.Leads := by
  obtain ⟨⟨more, he, hf⟩, -, hr, -⟩ := hc
  rw [List.nil_append] at he
  rw [Cycle.walk, he]
  cases more with
  | nil => simp [he] at hr
  | cons a more => exact ((follows_cons_iff_isChain _).1 hf).2.2

/-- What repeats of a chain that closes is a loop. -/
theorem IsClosing.isLoop (hc : g.IsClosing refs c) : IsLoop g.Leads c.loop := by
  obtain ⟨rest, hl⟩ := Cycle.exists_dropWhile_eq_cons hc.closes
  -- the loop is the end of the chain, and what leads around it the end of the walk
  have hsuffix : c.loop <:+ c.chain := List.dropWhile_suffix _
  have hwalk := hc.isChain_walk
  rw [Cycle.loop] at hsuffix ⊢
  rw [hl] at hsuffix ⊢
  obtain ⟨start, hs⟩ := hsuffix
  rw [Cycle.walk, ← hs, List.append_assoc] at hwalk
  exact .mk (hc.nodup.sublist (hs ▸ List.sublist_append_right _ _)) hwalk.right_of_append

/-- The first schema of a loop is a key, and some schema refers to it. -/
theorem IsLoop.exists_mem_values {a : String} {rest : List String}
    (hl : IsLoop g.Leads (a :: rest)) :
    a ∈ Table.keys g ∧ ∃ next ∈ Table.values g, a ∈ next := by
  obtain ⟨-, hleads⟩ := hl
  have hlast := (a :: rest).getLast?_eq_some_getLast (List.cons_ne_nil a rest)
  obtain ⟨next, hn, ha, hk⟩ := (List.isChain_append.1 hleads).2.2 _ hlast a rfl
  exact ⟨hk, next, List.mem_map_of_mem (Table.mem_of_find_eq_some hn), ha⟩

/-- A loop of two or more schemas closes from any references that hold its first one. -/
theorem IsLoop.isClosing {a b : String} {rest : List String} (hl : IsLoop g.Leads (a :: b :: rest))
    (ha : a ∈ refs) : g.IsClosing refs ⟨a :: b :: rest, a⟩ := by
  have hk := hl.exists_mem_values.1
  obtain ⟨hnodup, hleads⟩ := hl
  exact ⟨⟨a :: b :: rest, rfl, (follows_cons_iff_isChain _).2 ⟨ha, hk, hleads⟩⟩, hnodup,
    List.mem_cons_self, by simp⟩

end ReferenceGraph

end SequenceApi
