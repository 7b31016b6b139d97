import Mathlib.Data.List.Perm.Subperm
import SequenceApi.Proofs.Reference.Mention
import SequenceApi.Proofs.Yaml.Unfold
import SequenceApi.Source.Content

/-!
# Marks of decoded documents

A document that was decoded from a text has marks that are what they stand for. The containers of a
JSON value have none. The containers of a YAML text have the numbers of their nodes, and on a way
that meets no number twice there are no more containers than the text has nodes. The document is
unfolded some levels deeper than that, so whatever is reached on such a way still shows what it has.

## Main definitions

* `Node.IsDecoded`: a document that can come out of a text
* `Contents.OnLevel`: a tree of a level, or a scalar

## Main results

* `Content.isDecoded_of_read`: reading gives decoded documents
* `Node.IsDecoded.coherent`: the parts of a decoded document down to the third level are coherent
-/

namespace SequenceApi

open Yaml (Contents)

/-- A document that can come out of a text. -/
inductive Node.IsDecoded : Node → Prop where
  | json (v : Json) : IsDecoded (ofJson v)
  | yaml (cs : Contents) (root : Nat) : IsDecoded (cs.document root)

theorem Yaml.isDecoded_of_read {text : String} {n : Node} (h : Yaml.read text = .ok (some n)) :
    n.IsDecoded := by
  simp only [Yaml.read, bind, Except.bind] at h
  split at h
  · simp at h
  · split at h
    · simp [pure, Except.pure] at h
    · split at h
      · simp at h
      · obtain rfl := Option.some_inj.1 (Except.ok.inj h)
        exact .yaml _ _

theorem Content.isDecoded_of_readYaml {json : Option Json.ReadError} {text : String} {n : Node}
    (h : readYaml json text = .ok n) : n.IsDecoded := by
  simp only [readYaml] at h
  split at h <;> simp at h
  next n' _ hread => exact h ▸ Yaml.isDecoded_of_read hread

/-- Reading gives decoded documents. -/
theorem Content.isDecoded_of_read {hint : FormHint} {text : String} {n : Node}
    (h : Content.read hint text = .ok n) : n.IsDecoded := by
  simp only [Content.read] at h
  split at h
  · exact isDecoded_of_readYaml h
  · split at h
    · exact Except.ok.inj h ▸ .json _
    · simp at h
    · simp at h
  · split at h
    · exact Except.ok.inj h ▸ .json _
    · exact isDecoded_of_readYaml h
    · simp at h

namespace Node

/-! ## Values without marks -/

@[simp] theorem mark?_ofJson (v : Json) : (ofJson v).mark? = none := by
  cases v <;> rfl

theorem exists_of_mem_parts_ofJson {v : Json} {p : Node} (h : p ∈ (ofJson v).parts) :
    ∃ w, p = ofJson w := by
  cases v with
  | arr items =>
    rw [ofJson, parts] at h
    induction items with
    | nil => simp [ofItems] at h
    | cons w items ih =>
      rw [ofItems] at h
      rcases List.mem_cons.1 h with rfl | h
      · exact ⟨w, rfl⟩
      · exact ih h
  | obj fields =>
    rw [ofJson, parts] at h
    induction fields with
    | nil => simp [ofFields] at h
    | cons e fields ih =>
      obtain ⟨k, w⟩ := e
      rw [ofFields, List.map_cons] at h
      rcases List.mem_cons.1 h with rfl | h
      · exact ⟨w, rfl⟩
      · exact ih h
  | _ => simp [ofJson, parts] at h

theorem Reached.exists_ofJson {v : Json} {path : List Nat} {a : Node}
    (h : Reached (ofJson v) path a) : ∃ w, a = ofJson w := by
  induction h with
  | root => exact ⟨v, rfl⟩
  | part _ _ hp ih =>
    obtain ⟨w, rfl⟩ := ih
    exact exists_of_mem_parts_ofJson hp

theorem coherent_ofJson (v : Json) : Coherent (ofJson v) := by
  intro path a b m ha _ hm
  obtain ⟨w, rfl⟩ := ha.exists_ofJson
  simp at hm

end Node

namespace Yaml.Contents

variable {cs : Contents}

/-! ## Trees of contents -/

theorem mark?_nodeOf (i : Nat) (tree tree' : Nat → Node) (c : Option Content) :
    (cs.nodeOf i tree c).mark? = (cs.nodeOf i tree' c).mark? := by
  rcases c with _ | c
  · rfl
  · cases c <;> rfl

theorem eq_of_mark?_nodeOf {i m : Nat} {tree : Nat → Node} {c : Option Content}
    (h : (cs.nodeOf i tree c).mark? = some m) : i = m ∧ c ≠ none := by
  rcases c with _ | c
  · simp [nodeOf, Node.mark?] at h
  · cases c <;> simp_all [nodeOf, Node.mark?]

/-- What has parts has a mark. -/
theorem mark?_of_mem_parts {i : Nat} {tree : Nat → Node} {c : Option Content} {p : Node}
    (h : p ∈ (cs.nodeOf i tree c).parts) : (cs.nodeOf i tree c).mark? = some i := by
  rcases c with _ | c
  · simp [nodeOf, Node.parts] at h
  · cases c <;> first | rfl | simp [nodeOf, Node.parts] at h

theorem mem_parts_nodeOf {i : Nat} {tree : Nat → Node} {c : Option Content} {p : Node}
    (h : p ∈ (cs.nodeOf i tree c).parts) :
    (∃ j, p = tree j ∧ ∀ tree', tree' j ∈ (cs.nodeOf i tree' c).parts) ∨ ∃ s, p = .scalar s := by
  rcases c with _ | c
  · simp [nodeOf, Node.parts] at h
  cases c with
  | list items =>
    obtain ⟨j, hj, rfl⟩ := List.mem_map.1 h
    exact .inl ⟨j, rfl, fun tree' => List.mem_map_of_mem hj⟩
  | table entries =>
    simp only [nodeOf, Node.parts, List.map_map, List.mem_map, Function.comp_apply] at h
    obtain ⟨e, he, rfl⟩ := h
    refine .inl ⟨e.2, rfl, fun tree' => ?_⟩
    simp only [nodeOf, Node.parts, List.map_map, List.mem_map, Function.comp_apply]
    exact ⟨e, he, rfl⟩
  | pairs entries =>
    obtain ⟨e, -, rfl⟩ := List.mem_map.1 h
    exact .inr ⟨_, rfl⟩
  | _ => simp [nodeOf, Node.parts] at h

/-- The reference that a table is depends on the texts of its parts. -/
theorem ref?_nodeOf_congr {i : Nat} {tree tree' : Nat → Node}
    (h : ∀ j, (tree j).str? = (tree' j).str?) (c : Option Content) :
    (cs.nodeOf i tree c).ref? = (cs.nodeOf i tree' c).ref? := by
  rcases c with _ | c
  · rfl
  cases c with
  | table entries =>
    rw [nodeOf, nodeOf, Node.ref?, Node.ref?, Node.refOf?, Node.refOf?]
    induction entries with
    | nil => rfl
    | cons e entries ih =>
      rw [List.map_cons, List.map_cons, Table.find, Table.find]
      split
      · exact h e.2
      · exact ih
  | _ => rfl

/-! ## Nodes of a level -/

/-- A tree of a level, or a scalar. -/
inductive OnLevel (cs : Contents) (n : Nat) : Node → Prop where
  | tree (i : Nat) : OnLevel cs n (cs.tree n i)
  | scalar (s : Scalar) : OnLevel cs n (.scalar s)

theorem parts_tree_zero (i : Nat) : (cs.tree 0 i).parts = [] := by
  rw [tree_zero, Node.parts]

/-- The parts of a tree are nodes of the level before. -/
theorem OnLevel.part {n : Nat} {a p : Node} (ha : OnLevel cs (n + 1) a) (hp : p ∈ a.parts) :
    OnLevel cs n p := by
  cases ha with
  | tree i =>
    rw [tree_succ] at hp
    rcases mem_parts_nodeOf hp with ⟨j, rfl, -⟩ | ⟨s, rfl⟩
    · exact .tree j
    · exact .scalar s
  | scalar s => simp [Node.parts] at hp

/-- A node with parts is a tree above level zero, with the number of its node as its mark. -/
theorem OnLevel.of_mem_parts {n : Nat} {a p : Node} (ha : OnLevel cs n a) (hp : p ∈ a.parts) :
    ∃ l i, n = l + 1 ∧ a = cs.tree (l + 1) i ∧ a.mark? = some i ∧ i < cs.size := by
  cases ha with
  | tree i =>
    cases n with
    | zero => simp [parts_tree_zero] at hp
    | succ l =>
      rw [tree_succ] at hp
      have hmark := mark?_of_mem_parts hp
      refine ⟨l, i, rfl, rfl, by rwa [tree_succ], ?_⟩
      -- a number beyond the contents is no container
      by_contra hi
      exact (eq_of_mark?_nodeOf hmark).2 (cs.content?_of_size_le (Nat.not_lt.1 hi))
  | scalar s => simp [Node.parts] at hp

/-- A marked node is the tree of its mark, above level zero. -/
theorem OnLevel.of_mark? {n m : Nat} {a : Node} (ha : OnLevel cs n a) (hm : a.mark? = some m) :
    m < cs.size ∧ ∃ l, n = l + 1 ∧ a = cs.tree (l + 1) m := by
  cases ha with
  | tree i =>
    cases n with
    | zero => simp [tree_zero, Node.mark?] at hm
    | succ l =>
      rw [tree_succ] at hm
      obtain ⟨rfl, hc⟩ := eq_of_mark?_nodeOf hm
      refine ⟨?_, l, rfl, rfl⟩
      by_contra hi
      exact hc (cs.content?_of_size_le (Nat.not_lt.1 hi))
  | scalar s => simp [Node.mark?] at hm

theorem OnLevel.within {n : Nat} {root b : Node} (hroot : OnLevel cs n root)
    (hb : Node.Within root b) : ∃ l, OnLevel cs l b := by
  induction hb with
  | root => exact ⟨n, hroot⟩
  | part _ hp ih =>
    obtain ⟨l, hl⟩ := ih
    obtain ⟨l, -, rfl, -⟩ := hl.of_mem_parts hp
    exact ⟨l, hl.part hp⟩

/-- On a way that meets no mark twice, every container takes one level. -/
theorem OnLevel.reached {n : Nat} {root a : Node} {path : List Nat} (hroot : OnLevel cs n root)
    (ha : Node.Reached root path a) :
    path.Nodup ∧ path ⊆ List.range cs.size ∧ ∃ l, n = l + path.length ∧ OnLevel cs l a := by
  -- Induction on the way: one mark more, one level less.
  induction ha with
  | root => exact ⟨List.nodup_nil, List.nil_subset _, n, rfl, hroot⟩
  | part _ hnew hp ih =>
    obtain ⟨hd, hs, l, rfl, hl⟩ := ih
    obtain ⟨l, i, rfl, -, hmark, hi⟩ := hl.of_mem_parts hp
    rw [hmark] at hnew ⊢
    refine ⟨List.nodup_cons.2 ⟨by simpa [Node.isKnown] using hnew, hd⟩,
      List.cons_subset.2 ⟨List.mem_range.2 hi, hs⟩, l, ?_, hl.part hp⟩
    simp
    omega

/-! ## What shows on a level -/

theorem not_mentions_tree_zero {i : Nat} {r : String} : ¬ (cs.tree 0 i).Mentions r := by
  rw [tree_zero]
  rintro (h | ⟨-, hp, -⟩)
  · simp [Node.ref?] at h
  · simp [Node.parts] at hp

/-- Above level zero, a tree has the mark that it has on any level. -/
theorem mark?_tree_succ (n n' i : Nat) :
    (cs.tree (n + 1) i).mark? = (cs.tree (n' + 1) i).mark? := by
  rw [tree_succ, tree_succ, mark?_nodeOf]

theorem str?_tree_succ (n n' i : Nat) : (cs.tree (n + 1) i).str? = (cs.tree (n' + 1) i).str? := by
  rw [tree_succ, tree_succ]
  rcases cs.content? i with _ | c
  · rfl
  · cases c <;> rfl

/-- Above level one, a tree is the reference that it is on any level. -/
theorem ref?_tree_succ_succ (n n' i : Nat) :
    (cs.tree (n + 2) i).ref? = (cs.tree (n' + 2) i).ref? := by
  rw [tree_succ, cs.tree_succ (n' + 1)]
  exact ref?_nodeOf_congr (cs.str?_tree_succ n n') _

theorem ref?_tree_one (i : Nat) : (cs.tree 1 i).ref? = none := by
  rw [tree_succ]
  rcases cs.content? i with _ | c
  · rfl
  cases c with
  | table entries =>
    rw [nodeOf, Node.ref?, Node.refOf?]
    induction entries with
    | nil => rfl
    | cons e entries ih =>
      rw [List.map_cons, Table.find]
      split
      · rw [tree_zero]
        rfl
      · exact ih
  | _ => rfl

/-- A node that mentions something and is no scalar has a mark, the same on all levels. -/
theorem mark?_of_mentions {n i : Nat} {r : String} (h : (cs.tree n i).Mentions r) :
    ∃ l, n = l + 1 ∧ (cs.tree n i).mark? = some i := by
  cases n with
  | zero => exact absurd h not_mentions_tree_zero
  | succ l =>
    refine ⟨l, rfl, ?_⟩
    rw [tree_succ] at h ⊢
    rcases h with h | ⟨-, hp, -⟩
    · rcases hc : cs.content? i with _ | c
      · simp [hc, nodeOf, Node.ref?] at h
      · cases c <;> simp_all [nodeOf, Node.ref?, Node.mark?]
    · exact mark?_of_mem_parts hp

/-- Two levels down, a tree shows what it shows on any level. -/
theorem shows_tree (n n' i : Nat) : Node.Shows (cs.tree (n + 2) i) (cs.tree n' i) := by
  constructor
  · intro r hr
    rcases n' with _ | _ | l
    · simp [tree_zero, Node.ref?] at hr
    · simp [ref?_tree_one] at hr
    · rwa [cs.ref?_tree_succ_succ n l]
  · intro hb p hp r hr
    cases n' with
    | zero => simp [tree_zero, Node.parts] at hp
    | succ l =>
      rw [tree_succ] at hp
      rcases mem_parts_nodeOf hp with ⟨j, rfl, hj⟩ | ⟨s, rfl⟩
      · obtain ⟨l, rfl, hmark⟩ := mark?_of_mentions hr
        refine ⟨by rw [cs.ref?_tree_succ_succ n l, hb], cs.tree (n + 1) j, ?_, .inr ⟨j, ?_, hmark⟩⟩
        · rw [tree_succ]
          exact hj _
        · rw [cs.mark?_tree_succ n l, hmark]
      · rcases hr with h | ⟨-, hp, -⟩
        · simp [Node.ref?] at h
        · simp [Node.parts] at hp

/-- A node of a level above the number of nodes is coherent. -/
theorem OnLevel.coherent {n : Nat} {root : Node} (hroot : OnLevel cs n root)
    (hn : cs.size + 1 ≤ n) : root.Coherent := by
  intro path a b m ha hm hmark hb hmark'
  obtain ⟨hd, hs, l, rfl, hl⟩ := hroot.reached ha
  obtain ⟨hlt, l, rfl, rfl⟩ := hl.of_mark? hmark
  obtain ⟨l', hb⟩ := hroot.within hb
  obtain ⟨-, l', rfl, rfl⟩ := hb.of_mark? hmark'
  -- the way and the mark at its end are no more than there are nodes, and so levels are left
  have hlen := (List.Nodup.subperm (List.nodup_cons.2 ⟨hm, hd⟩)
    (List.cons_subset.2 ⟨List.mem_range.2 hlt, hs⟩)).length_le
  rw [List.length_range, List.length_cons] at hlen
  obtain ⟨l, rfl⟩ : ∃ k, l = k + 1 := ⟨l - 1, by omega⟩
  exact cs.shows_tree l (l' + 1) m

end Yaml.Contents

namespace Node

/-- The parts of a decoded document down to the third level are coherent. -/
theorem IsDecoded.coherent {document a b c : Node} (h : document.IsDecoded)
    (ha : a ∈ document.parts) (hb : b ∈ a.parts) : b.Coherent ∧ (c ∈ b.parts → c.Coherent) := by
  cases h with
  | json v =>
    obtain ⟨w, rfl⟩ := exists_of_mem_parts_ofJson ha
    obtain ⟨w, rfl⟩ := exists_of_mem_parts_ofJson hb
    refine ⟨coherent_ofJson w, fun hc => ?_⟩
    obtain ⟨w, rfl⟩ := exists_of_mem_parts_ofJson hc
    exact coherent_ofJson w
  | yaml cs root =>
    rw [Contents.document_eq_tree, Contents.deepestPath] at ha
    have hb' := ((Contents.OnLevel.tree root).part ha).part hb
    exact ⟨hb'.coherent (by omega), fun hc => (hb'.part hc).coherent (by omega)⟩

end Node

end SequenceApi
