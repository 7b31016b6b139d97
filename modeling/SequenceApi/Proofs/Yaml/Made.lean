import SequenceApi.Proofs.Yaml.Merged
import SequenceApi.Proofs.Yaml.Parsed
import SequenceApi.Yaml.Value

/-!
# Values of nodes

A container is made of nodes, and only scalars can fail to have a value. A scalar without a tag has
one unless it stands without quotes and promises a number or a time that does not exist. The nodes
are those of the text throughout, also while mappings take over entries.

## Main definitions

* `Making.Fits`: the nodes are those of a text
* `Maker.Keeps`: making goes on with nodes of a text

## Main results

* `meets_scalarAtom`: the value of a scalar
* `Maker.keeps_fill`, `meets_ofGraph`: containers, and all contents
* `meets_read`: the errors of a text have causes in the text
-/

namespace SequenceApi.Yaml

variable {cs : List Char} {α β : Type}

/-! ## Scalars -/

theorem Vertex.IsFrom.of_isLike {v v' : Vertex} (h : v.IsFrom cs) (hv : v.IsLike v') :
    v'.IsFrom cs := by
  cases v <;> cases v' <;> try exact hv.elim
  · obtain ⟨rfl | ⟨-, rfl⟩, rfl⟩ := hv
    · exact h
    · exact .inl rfl
  · obtain ⟨rfl | ⟨rfl, -⟩, rfl⟩ := hv
    · exact h
    · exact .inr (h.resolve_left fun heq => by cases heq)
  · obtain rfl | ⟨rfl, -⟩ := hv
    · exact h
    · exact .inr (h.resolve_left fun heq => by cases heq)

theorem isFrom_of_settles {g g' : Graph} (h : Graph.Settles g g') (hg : ∀ v ∈ g, v.IsFrom cs) :
    ∀ v ∈ g', v.IsFrom cs := by
  intro v' hv'
  obtain ⟨i, hi⟩ := Array.mem_iff_getElem?.1 hv'
  have hrel := h.vertex i
  rw [hi] at hrel
  cases hv : g[i]? with
  | none =>
    rw [hv] at hrel
    cases hrel
  | some v =>
    rw [hv] at hrel
    cases hrel with
    | some hlike => exact (hg v (Array.mem_of_getElem? hv)).of_isLike hlike

theorem isOfTag_of_scalarText {g : Graph} (n : Nat) (v : Vertex) :
    Meets (fun e => e = .malformed ∨ IsOfTag e) (scalarText g n v) fun _ => True := by
  induction n generalizing v with
  | zero => exact .inr .tooDeep
  | succ n ih =>
    cases v with
    | scalar => exact True.intro
    | seq => exact .inl rfl
    | map t entries =>
      rw [scalarText]
      split
      · exact .inl rfl
      · split
        · exact ih _
        · exact .inl rfl

/-- The tag counts before the text, and a stamp of a mapping is refused behind it. -/
theorem scalarAtom_eq (g : Graph) (v : Vertex) :
    scalarAtom g v =
      if v.tag.isAtomic then
        scalarText g (g.size + 1) v >>= fun text =>
          if v.isMap && v.tag = .form .stamp then .error .noStampText else Atom.ofText v.tag text
      else .error .malformed := by
  unfold scalarAtom
  cases v.tag.isAtomic with
  | false => rfl
  | true =>
    cases scalarText g (g.size + 1) v with
    | error e => rfl
    | ok text => cases v.isMap && decide (v.tag = .form .stamp) <;> rfl

theorem scalarAtom_scalar (g : Graph) (t : Tag) (text : String) :
    scalarAtom g (.scalar t text) =
      if t.isAtomic then Atom.ofText t text else .error .malformed := by
  rw [scalarAtom_eq]
  rfl

/-- A declared tag makes such errors only. -/
theorem isOfTag_of_scalarAtom (g : Graph) (v : Vertex) :
    Meets (fun e => e = .malformed ∨ IsOfTag e) (scalarAtom g v) fun _ => True := by
  rw [scalarAtom_eq]
  refine .ite (fun _ => (isOfTag_of_scalarText _ v).bind fun text _ => ?_) fun _ => .inl rfl
  refine .ite (fun _ => .inr .noStampText) fun _ => ?_
  exact .of_error fun e he => .inr (.value he)

/-- The value of a node. Without a tag only a scalar has one. -/
theorem meets_scalarAtom (g : Graph) {v : Vertex} (hv : v.IsFrom cs) :
    Meets (Cause cs) (scalarAtom g v) fun _ => True := by
  -- A tag can declare a value of any form; without one the form of the text decides.
  by_cases htag : HasTag cs
  · refine (isOfTag_of_scalarAtom g v).mono_error fun e he => ?_
    rcases he with rfl | he
    · exact .malformed
    · exact .tag htag he
  · cases v with
    | seq t items =>
      obtain rfl := hv.resolve_right htag
      exact .malformed
    | map t entries =>
      obtain rfl := hv.resolve_right htag
      exact .malformed
    | scalar t text =>
      rw [scalarAtom_scalar]
      refine .ite (fun _ => ?_) fun _ => .malformed
      rcases hv with rfl | rfl | ⟨rfl, hplain⟩ | h
      · exact True.intro
      · exact True.intro
      · exact .of_error fun e he => .plain hplain he
      · exact absurd h htag

/-! ## Containers -/

/-- The nodes are those of a text. -/
def Making.Fits (cs : List Char) (m : Making) : Prop :=
  ∀ v ∈ m.graph, v.IsFrom cs

namespace Maker

/-- What is made goes on with nodes of a text, and an error has a cause in the text. -/
def Keeps (cs : List Char) (m : Maker α) : Prop :=
  MeetsFrom (Cause cs) (Making.Fits cs) m fun _ => Making.Fits cs

theorem Keeps.bind {m : Maker α} {f : α → Maker β} (h : Keeps cs m) (hf : ∀ a, Keeps cs (f a)) :
    Keeps cs (m >>= f) :=
  MeetsFrom.bind h hf

theorem keeps_fail : Keeps cs (fail : Maker α) :=
  .throw .malformed

theorem keeps_pure (a : α) : Keeps cs (pure a : Maker α) :=
  .pure fun _ => id

/-- What depends on the state, whose nodes are those of the text. -/
theorem keeps_get {f : Making → Maker α} (h : ∀ m, m.Fits cs → Keeps cs (f m)) :
    Keeps cs (get >>= f) :=
  MeetsFrom.get.bind fun m => .assume (p := m.Fits cs) (fun _ hs => hs.2 ▸ hs.1) fun hm =>
    MeetsFrom.start (h m hm) fun _ hs => hs.1

/-- What depends on a node of the text. -/
theorem keeps_vertex (i : Nat) {f : Vertex → Maker α} (h : ∀ v, v.IsFrom cs → Keeps cs (f v)) :
    Keeps cs (vertex i >>= f) := by
  have hvertex : MeetsFrom (Cause cs) (Making.Fits cs) (vertex i) fun v m =>
      v.IsFrom cs ∧ m.Fits cs := by
    refine MeetsFrom.get.bind fun m => ?_
    split
    · next v hv =>
      refine .pure fun s hs => ⟨?_, hs.1⟩
      exact hs.1 v (hs.2 ▸ Array.mem_of_getElem? hv)
    · exact .throw .malformed
  exact hvertex.bind fun v => .assume (fun _ hs => hs.1) fun hv =>
    MeetsFrom.start (h v hv) fun _ hs => hs.2

theorem keeps_lift {r : Except ReadError α} {f : α → Maker β} {P : α → Prop}
    (hr : Meets (Cause cs) r P) (h : ∀ a, P a → Keeps cs (f a)) : Keeps cs (liftM r >>= f) := by
  have hlift : MeetsFrom (Cause cs) (Making.Fits cs) (liftM r : Maker α) fun a m =>
      P a ∧ m.Fits cs :=
    MeetsFrom.lift fun m hm => hr.mono fun a ha => ⟨ha, hm⟩
  exact hlift.bind fun a => .assume (fun _ hs => hs.1) fun ha =>
    MeetsFrom.start (h a ha) fun _ hs => hs.2

theorem keeps_become (i : Nat) (c : Content) : Keeps cs (become i c) :=
  MeetsFrom.modify fun _ => id

theorem keeps_make (i : Nat) : Keeps cs (make i) := by
  unfold make
  refine keeps_get fun m _ => ?_
  split
  · exact keeps_pure ()
  · refine keeps_vertex i fun v hv => ?_
    split
    · exact (keeps_become i _).bind fun _ => MeetsFrom.modify fun _ => id
    · exact keeps_get fun m _ => keeps_lift (meets_scalarAtom m.graph hv) fun a _ =>
        keeps_become i _

theorem keeps_makeKey (i : Nat) : Keeps cs (makeKey i) := by
  refine (keeps_make i).bind fun _ => keeps_get fun m _ => ?_
  split
  · exact keeps_fail
  · exact keeps_pure ()

theorem keeps_entries (i : Nat) : Keeps cs (entries i) := by
  unfold entries
  refine keeps_get fun m _ => ?_
  split
  · exact keeps_fail
  · refine keeps_get fun m hm => keeps_lift (P := fun g => ∀ v ∈ g, v.IsFrom cs) ?_ fun g hg => ?_
    · exact ((m.graph.meets_withMerged i).mono fun g hg => isFrom_of_settles hg hm).mono_error
        fun e he => he ▸ .malformed
    · -- The entries that were taken over count from here on.
      refine Keeps.bind (MeetsFrom.modify fun _ _ => hg) fun _ => ?_
      refine Keeps.bind (MeetsFrom.forIn _ _ fun e _ => ?_) fun _ => keeps_get fun _ _ =>
        keeps_pure _
      exact (keeps_makeKey e.1).bind fun _ => (keeps_make e.2).bind fun _ => keeps_pure _

theorem keeps_items (i : Nat) : Keeps cs (items i) := by
  refine keeps_vertex i fun v _ => ?_
  split
  · exact keeps_pure _
  · exact keeps_fail

theorem keeps_pair (i : Nat) : Keeps cs (pair i) := by
  refine keeps_vertex i fun v _ => ?_
  split
  · exact (keeps_make _).bind fun _ => (keeps_make _).bind fun _ => keeps_pure _
  · exact keeps_fail

/-- A container is filled. -/
theorem keeps_fill (i : Nat) : Keeps cs (fill i) := by
  unfold fill
  refine keeps_get fun m _ => ?_
  split
  · exact (keeps_items i).bind fun l => Keeps.bind (MeetsFrom.forM l keeps_make) fun _ =>
      keeps_become i _
  · exact (keeps_entries i).bind fun es => keeps_become i _
  · exact (keeps_entries i).bind fun es => keeps_become i _
  · exact (keeps_items i).bind fun l => Keeps.bind (MeetsFrom.mapM l keeps_pair) fun _ =>
      keeps_become i _
  · exact keeps_pure ()

/-- All containers are filled, round by round. -/
theorem keeps_fillAll (n : Nat) : Keeps cs (fillAll n) := by
  -- Induction on the rounds, which a container that is met meanwhile waits for.
  induction n with
  | zero => exact keeps_pure ()
  | succ n ih =>
    rw [fillAll]
    refine keeps_get fun m _ => ?_
    dsimp only
    split
    · exact keeps_pure ()
    · refine Keeps.bind (MeetsFrom.modify fun _ => id) fun _ => ?_
      exact Keeps.bind (MeetsFrom.forM _ keeps_fill) fun _ => ih

end Maker

theorem meets_ofGraph {g : Graph} (hg : ∀ v ∈ g, v.IsFrom cs) (root : Nat) :
    Meets (Cause cs) (Contents.ofGraph g root) fun _ => True :=
  Meets.bind (((Maker.keeps_make root).bind fun _ => Maker.keeps_fillAll _)
    { graph := g, contents := Array.replicate g.size none } hg) fun _ _ => True.intro

/-- Where the reader of a text stops, the text has a cause. -/
theorem meets_read (s : String) : Meets (Cause s.toList) (read s) fun _ => True := by
  refine (meets_ofText s.toList).bind fun r hr => ?_
  split
  · exact True.intro
  · next g root => exact (meets_ofGraph (hr g root rfl) root).bind fun _ _ => True.intro

end SequenceApi.Yaml
