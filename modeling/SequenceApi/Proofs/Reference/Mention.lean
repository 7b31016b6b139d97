import SequenceApi.Proofs.Table
import SequenceApi.Reference.Target

/-!
# What a tree mentions

A tree mentions a reference if it is one, or if it is none and one of its parts mentions it. The
references of a tree are collected in one pass that enters a container only the first time it is
met. That loses no mention, as long as marks are what they stand for: wherever a mark occurs again,
nothing shows that did not show where the pass came upon it.

The pass keeps a list of known marks. Its invariant is that every mark which it adds belongs to a
container that was reached without meeting its own mark on the way, and that all parts of that
container are settled: known by then, or searched through. A mention anywhere in the tree is then
followed from one settled container to the next.

## Main definitions

* `Node.Mentions`: what a tree mentions
* `Node.Reached`: how a part is reached
* `Node.Coherent`: marks are what they stand for
* `Node.Settled`: nothing of a part is missed

## Main results

* `Node.search_refsFrom`: one pass keeps the invariant
* `Node.mem_refs_iff`: the references of a coherent tree are those that it mentions
-/

namespace SequenceApi

namespace Node

/-- The mark of a container. -/
def mark? : Node → Option Nat
  | .scalar _ => none
  | .seq mark _ => mark
  | .map mark _ => mark

/-- The items of a sequence, or the values of a mapping. -/
def parts : Node → List Node
  | .scalar _ => []
  | .seq _ items => items
  | .map _ entries => entries.map Prod.snd

/-- The reference that a node is. -/
def ref? : Node → Option String
  | .map _ entries => refOf? entries
  | _ => none

/-- The references in a tree that are not below another one. -/
inductive Mentions : Node → String → Prop where
  | here {n : Node} {ref : String} (h : n.ref? = some ref) : Mentions n ref
  | part {n p : Node} {ref : String} (hn : n.ref? = none) (hp : p ∈ n.parts)
      (h : Mentions p ref) : Mentions n ref

/-- What holds of a node whenever it holds of its parts holds of every node. -/
theorem induction_parts {motive : Node → Prop}
    (step : ∀ n : Node, (∀ p ∈ n.parts, motive p) → motive n) (n : Node) : motive n := by
  refine step n ?_
  cases n with
  | scalar s => exact fun p hp => absurd hp List.not_mem_nil
  | seq mark items => exact fun p hp => induction_parts step p
  | map mark entries =>
    intro p hp
    obtain ⟨e, he, rfl⟩ := List.mem_map.1 hp
    exact induction_parts step e.2
termination_by sizeOf n
decreasing_by
  · have hitem := List.sizeOf_lt_of_mem (show p ∈ items from hp)
    rw [seq.sizeOf_spec]
    omega
  · have hvalue := Table.sizeOf_snd_lt_of_mem he
    rw [map.sizeOf_spec]
    omega

/-! ## One pass -/

theorem refsOfEntries_eq (entries : List (Scalar × Node)) :
    ∀ known : List Nat, refsOfEntries known entries = refsOfItems known (entries.map Prod.snd) := by
  induction entries with
  | nil => exact fun known => rfl
  | cons e entries ih =>
    intro known
    simp only [refsOfEntries, List.map_cons, refsOfItems, ih]

theorem refsFrom_eq (known : List Nat) (n : Node) :
    refsFrom known n =
      if isKnown known n.mark? then ([], known)
      else
        match n.ref? with
        | some ref => ([ref], n.mark?.toList ++ known)
        | none => refsOfItems (n.mark?.toList ++ known) n.parts := by
  cases n with
  | scalar s => simp [refsFrom, mark?, isKnown, ref?, parts, refsOfItems]
  | seq mark items => rfl
  | map mark entries =>
    simp only [refsFrom, mark?, ref?, parts, refsOfEntries_eq]
    rfl

theorem isKnown_eq_true_iff {known : List Nat} {mark : Option Nat} :
    isKnown known mark = true ↔ ∃ m ∈ known, mark = some m := by
  cases mark <;> simp [isKnown]

/-- Every reference that is collected is mentioned. -/
theorem mentions_of_mem_refsFrom (n : Node) :
    ∀ {known : List Nat} {ref : String}, ref ∈ (refsFrom known n).1 → n.Mentions ref := by
  induction n using induction_parts with
  | step n ih =>
    intro known ref h
    -- what is collected from some of the parts is mentioned by one of them
    have hitems (ps : List Node) (hps : ps ⊆ n.parts) :
        ∀ {known : List Nat}, ref ∈ (refsOfItems known ps).1 → ∃ p ∈ n.parts, p.Mentions ref := by
      induction ps with
      | nil => simp [refsOfItems]
      | cons p ps ihp =>
        intro known h
        rw [refsOfItems] at h
        rcases List.mem_append.1 h with h | h
        · exact ⟨p, hps List.mem_cons_self, ih p (hps List.mem_cons_self) h⟩
        · exact ihp (fun q hq => hps (List.mem_cons_of_mem p hq)) h
    rw [refsFrom_eq] at h
    split at h
    · simp at h
    · split at h
      · next r hr =>
        obtain rfl : ref = r := by simpa using h
        exact .here hr
      · next hn =>
        obtain ⟨p, hp, hm⟩ := hitems n.parts (List.Subset.refl _) h
        exact .part hn hp hm

/-! ## Places in a tree -/

/-- A node of the tree, with the marks on the way to it, none of which is met twice. -/
inductive Reached (root : Node) : List Nat → Node → Prop where
  | root : Reached root [] root
  | part {path : List Nat} {a p : Node} (ha : Reached root path a)
      (hnew : isKnown path a.mark? = false) (hp : p ∈ a.parts) :
      Reached root (a.mark?.toList ++ path) p

/-- A node of the tree. -/
inductive Within (root : Node) : Node → Prop where
  | root : Within root root
  | part {a p : Node} (ha : Within root a) (hp : p ∈ a.parts) : Within root p

/-- The first node shows what the second one does: the same reference, and, of the parts that
mention something, the part itself or one with its mark. -/
structure Shows (a b : Node) : Prop where
  ref : ∀ r, b.ref? = some r → a.ref? = some r
  parts : b.ref? = none → ∀ p ∈ b.parts, ∀ r, p.Mentions r →
    a.ref? = none ∧ ∃ q ∈ a.parts, q = p ∨ ∃ m, q.mark? = some m ∧ p.mark? = some m

/-- Marks are what they stand for: a container that is reached without its own mark shows what any
container with that mark does. -/
def Coherent (root : Node) : Prop :=
  ∀ {path : List Nat} {a b : Node} {m : Nat}, Reached root path a → m ∉ path → a.mark? = some m →
    Within root b → b.mark? = some m → Shows a b

/-! ## The invariant -/

/-- Nothing of the node is missed: it is known, or has no mark and was searched through. -/
inductive Settled (found : List String × List Nat) : Node → Prop where
  | known {n : Node} {m : Nat} (h : n.mark? = some m) (hm : m ∈ found.2) : Settled found n
  | ref {n : Node} {r : String} (h : n.mark? = none) (hr : n.ref? = some r) (hm : r ∈ found.1) :
      Settled found n
  | parts {n : Node} (h : n.mark? = none) (hn : n.ref? = none)
      (hp : ∀ p ∈ n.parts, Settled found p) : Settled found n

/-- The node was searched through. -/
inductive Explored (found : List String × List Nat) (n : Node) : Prop where
  | ref {r : String} (hr : n.ref? = some r) (hm : r ∈ found.1)
  | parts (hn : n.ref? = none) (hp : ∀ p ∈ n.parts, Settled found p)

/-- What was found includes the known marks, and every other mark is that of a container that was
reached without it and searched through. -/
structure Search (root : Node) (known : List Nat) (found : List String × List Nat) : Prop where
  grows : known ⊆ found.2
  explored : ∀ m ∈ found.2, m ∈ known ∨
    ∃ path a, Reached root path a ∧ m ∉ path ∧ a.mark? = some m ∧ Explored found a

section

variable {rs rs' : List String} {ks ks' : List Nat}

theorem Settled.mono (hr : rs ⊆ rs') (hk : ks ⊆ ks') {n : Node} (h : Settled (rs, ks) n) :
    Settled (rs', ks') n := by
  induction h with
  | known h hm => exact .known h (hk hm)
  | ref h hn hm => exact .ref h hn (hr hm)
  | parts h hn _ ih => exact .parts h hn ih

theorem Explored.mono (hr : rs ⊆ rs') (hk : ks ⊆ ks') {n : Node} (h : Explored (rs, ks) n) :
    Explored (rs', ks') n := by
  cases h with
  | ref hn hm => exact .ref hn (hr hm)
  | parts hn hp => exact .parts hn fun p h => (hp p h).mono hr hk

end

theorem Settled.mem_of_mark {found : List String × List Nat} {n : Node} {m : Nat}
    (h : Settled found n) (hm : n.mark? = some m) : m ∈ found.2 := by
  cases h with
  | known h hk => exact Option.some_inj.1 (hm.symm.trans h) ▸ hk
  | ref h _ _ => simp [h] at hm
  | parts h _ _ => simp [h] at hm

/-- A search goes on with what was known after another one. -/
theorem Search.trans {root : Node} {known : List Nat} {here there : List String × List Nat}
    (h : Search root known here) (h' : Search root here.2 there) :
    Search root known (here.1 ++ there.1, there.2) := by
  refine ⟨List.Subset.trans h.grows h'.grows, fun m hm => ?_⟩
  -- a mark that the second search adds, the first one adds, or was known before both
  rcases h'.explored m hm with hm | ⟨path, a, ha, hnew, hmark, he⟩
  · rcases h.explored m hm with hm | ⟨path, a, ha, hnew, hmark, he⟩
    · exact .inl hm
    · exact .inr ⟨path, a, ha, hnew, hmark, he.mono (List.subset_append_left _ _) h'.grows⟩
  · exact .inr ⟨path, a, ha, hnew, hmark,
      he.mono (List.subset_append_right _ _) (List.Subset.refl _)⟩

/-- The pass over items keeps the invariant if the pass over each of them does. -/
theorem search_refsOfItems {root : Node} {path : List Nat} (ps : List Node) :
    (∀ p ∈ ps, ∀ known : List Nat, path ⊆ known →
      Search root known (refsFrom known p) ∧ Settled (refsFrom known p) p) →
    ∀ known : List Nat, path ⊆ known →
      Search root known (refsOfItems known ps) ∧ ∀ p ∈ ps, Settled (refsOfItems known ps) p := by
  induction ps with
  | nil =>
    intro _ known _
    exact ⟨⟨List.Subset.refl _, fun m hm => .inl hm⟩, fun p hp => absurd hp List.not_mem_nil⟩
  | cons p ps ih =>
    intro h known hk
    obtain ⟨hs, hp⟩ := h p List.mem_cons_self known hk
    obtain ⟨hs', hps⟩ := ih (fun q hq => h q (List.mem_cons_of_mem p hq)) (refsFrom known p).2
      (List.Subset.trans hk hs.grows)
    rw [refsOfItems]
    refine ⟨hs.trans hs', List.forall_mem_cons.2 ⟨?_, fun q hq => ?_⟩⟩
    · exact hp.mono (List.subset_append_left _ _) hs'.grows
    · exact (hps q hq).mono (List.subset_append_right _ _) (List.Subset.refl _)

/-- The pass over a node that was reached keeps the invariant, and settles the node. -/
theorem search_refsFrom {root : Node} (n : Node) :
    ∀ {path : List Nat}, Reached root path n → ∀ known : List Nat, path ⊆ known →
      Search root known (refsFrom known n) ∧ Settled (refsFrom known n) n := by
  induction n using induction_parts with
  | step n ih =>
    intro path hreach known hk
    by_cases hknown : isKnown known n.mark? = true
    · -- nothing is entered a second time
      rw [refsFrom_eq, if_pos hknown]
      obtain ⟨m, hm, hmark⟩ := isKnown_eq_true_iff.1 hknown
      exact ⟨⟨List.Subset.refl _, fun m hm => .inl hm⟩, .known hmark hm⟩
    -- marks on the way are known, so this one is not among them
    have hfresh : isKnown path n.mark? = false := by
      rw [← Bool.not_eq_true, isKnown_eq_true_iff]
      rintro ⟨m, hm, hmark⟩
      exact hknown (isKnown_eq_true_iff.2 ⟨m, hk hm, hmark⟩)
    -- what is found settles the node as soon as it explores it
    have hself {found : List String × List Nat}
        (hs : Search root (n.mark?.toList ++ known) found) (he : Explored found n) :
        Search root known found ∧ Settled found n := by
      refine ⟨⟨fun m hm => hs.grows (List.mem_append_right _ hm), fun m hm => ?_⟩, ?_⟩
      · rcases hs.explored m hm with hm | hm
        · rcases List.mem_append.1 hm with hm | hm
          · have hmark : n.mark? = some m := Option.mem_toList.1 hm
            refine .inr ⟨path, n, hreach, fun hp => ?_, hmark, he⟩
            exact hknown (isKnown_eq_true_iff.2 ⟨m, hk hp, hmark⟩)
          · exact .inl hm
        · exact .inr hm
      · cases hmark : n.mark? with
        | some m => exact .known hmark (hs.grows (by simp [hmark]))
        | none =>
          cases he with
          | ref hr hm => exact .ref hmark hr hm
          | parts hn hp => exact .parts hmark hn hp
    rw [refsFrom_eq, if_neg hknown]
    split
    · next r hr =>
      exact hself ⟨List.Subset.refl _, fun m hm => .inl hm⟩ (.ref hr List.mem_cons_self)
    · next hn =>
      have hk' : n.mark?.toList ++ path ⊆ n.mark?.toList ++ known :=
        List.append_subset.2 ⟨List.subset_append_left _ _,
          fun m hm => List.mem_append_right _ (hk hm)⟩
      obtain ⟨hs, hp⟩ := search_refsOfItems n.parts
        (fun p hp => ih p hp (.part hreach hfresh hp)) _ hk'
      exact hself hs (.parts hn hp)

/-! ## Mentions are collected -/

/-- A mention in a settled node is found. -/
theorem Mentions.mem_found {root n : Node} {ref : String} (hc : Coherent root)
    {found : List String × List Nat} (hs : Search root [] found) (h : n.Mentions ref) :
    Within root n → Settled found n → ref ∈ found.1 := by
  -- a known mark is that of an explored container that shows what the node does
  have hshows {b : Node} {m : Nat} (hb : Within root b) (hmark : b.mark? = some m)
      (hm : m ∈ found.2) : ∃ a, Shows a b ∧ Explored found a := by
    rcases hs.explored m hm with hm | ⟨path, a, ha, hnew, hamark, he⟩
    · exact absurd hm List.not_mem_nil
    · exact ⟨a, hc ha hnew hamark hb hmark, he⟩
  -- Induction on the mention, from a node to the part of it that mentions the reference.
  induction h with
  | here h =>
    intro hw hset
    cases hset with
    | known hmark hm =>
      obtain ⟨a, hshow, he⟩ := hshows hw hmark hm
      have har := hshow.ref _ h
      cases he with
      | ref hr hm => exact Option.some_inj.1 (har.symm.trans hr) ▸ hm
      | parts hn _ => simp [hn] at har
    | ref _ hr hm => exact Option.some_inj.1 (h.symm.trans hr) ▸ hm
    | parts _ hn _ => simp [hn] at h
  | part hn hp h ih =>
    intro hw hset
    have hwp := hw.part hp
    cases hset with
    | known hmark hm =>
      obtain ⟨a, hshow, he⟩ := hshows hw hmark hm
      obtain ⟨han, q, hq, hqp⟩ := hshow.parts hn _ hp _ h
      cases he with
      | ref hr _ => simp [han] at hr
      | parts _ hps =>
        rcases hqp with rfl | ⟨m, hqm, hpm⟩
        · exact ih hwp (hps q hq)
        · exact ih hwp (.known hpm ((hps q hq).mem_of_mark hqm))
    | ref _ hr _ => simp [hn] at hr
    | parts _ _ hps => exact ih hwp (hps _ hp)

/-- **One pass is enough.** The references of a coherent tree are those that it mentions. -/
theorem mem_refs_iff {n : Node} (hc : Coherent n) {ref : String} :
    ref ∈ n.refs ↔ n.Mentions ref := by
  constructor
  · exact mentions_of_mem_refsFrom n
  · intro h
    obtain ⟨hs, hset⟩ := search_refsFrom n .root [] (List.Subset.refl [])
    exact h.mem_found hc hs .root hset

end Node

end SequenceApi
