import Mathlib.Data.List.Nodup
import SequenceApi.Yaml.Value

/-!
# Levels of an unfolded text

A text whose containers stand inside themselves has no finite tree. Its document is one of a
sequence of trees, the levels: on level zero nothing of a node shows, and on every further level a
node has the parts of its content, each on the level before. A tree of which nothing is cut off is
the same on all later levels, so the document is the tree of the last level, whether or not that
level was needed.

## Main definitions

* `Contents.levels`, `Contents.tree`: the trees of all nodes on a level
* `Contents.nodeOf`: the tree of a content, with trees for its parts

## Main results

* `Contents.tree_succ`: a tree is made of trees of the level before
* `Contents.document_eq_tree`: the document is the tree of the last level
-/

namespace SequenceApi.Yaml

namespace Contents

variable (cs : Contents)

/-- The documents at all nodes on a level, and whether nothing of them is cut off. -/
def levels : Nat → Array (Node × Bool)
  | 0 => Array.replicate cs.size (.scalar .null, false)
  | n + 1 => cs.unfoldOnce (levels n)

/-- The document at a node on a level. -/
def tree (n i : Nat) : Node :=
  ((cs.levels n).getD i (.scalar .null, true)).1

/-- Nothing of the document at a node is cut off. -/
def isWhole (n i : Nat) : Bool :=
  ((cs.levels n).getD i (.scalar .null, true)).2

/-- The document of a content, with trees for its parts. -/
def nodeOf (i : Nat) (tree : Nat → Node) : Option Content → Node
  | some (.list items) => .seq (some i) (items.map tree)
  | some (.table entries) => .map (some i) (entries.map fun e => (cs.scalar e.1, tree e.2))
  | some (.set members) => .scalar (.other (cs.setValue members))
  | some (.pairs entries) =>
    .seq (some i) (entries.zipIdx.map fun e => .scalar (.other (cs.pairValue i e)))
  | _ => .scalar (cs.scalar i)

/-- The nodes whose trees are parts of a content. -/
def partsOf : Option Content → List Nat
  | some (.list items) => items
  | some (.table entries) => entries.map Prod.snd
  | _ => []

theorem size_levels (n : Nat) : (cs.levels n).size = cs.size := by
  cases n <;> simp [levels, unfoldOnce]

theorem content?_of_size_le {i : Nat} (h : cs.size ≤ i) : cs.content? i = none := by
  rw [content?, Array.getElem?_eq_none h, Option.join_none]

theorem getD_levels_of_size_le (n : Nat) {i : Nat} (h : cs.size ≤ i) :
    (cs.levels n).getD i (.scalar .null, true) = (.scalar .null, true) := by
  rw [Array.getD_eq_getD_getElem?, Array.getElem?_eq_none (cs.size_levels n ▸ h),
    Option.getD_none]

theorem tree_zero (i : Nat) : cs.tree 0 i = .scalar .null := by
  rcases Nat.lt_or_ge i cs.size with h | h
  · simp [tree, levels, h]
  · rw [tree, cs.getD_levels_of_size_le 0 h]

/-- One more level is made of the level before. -/
theorem getD_levels_succ (n i : Nat) :
    (cs.levels (n + 1)).getD i (.scalar .null, true) =
      (cs.nodeOf i (cs.tree n) (cs.content? i), (partsOf (cs.content? i)).all (cs.isWhole n)) := by
  rcases Nat.lt_or_ge i cs.size with h | h
  · have hc : cs.content? i = cs[i] := by
      rw [content?, Array.getElem?_eq_getElem h, Option.join_some]
    rw [levels, unfoldOnce, Array.getD_eq_getD_getElem?, Array.getElem?_mapIdx,
      Array.getElem?_eq_getElem h, hc, Option.map_some, Option.getD_some]
    cases cs[i] with
    | none => rfl
    | some c =>
      cases c with
      | atom a => rfl
      | list items =>
        simp only [nodeOf, partsOf, List.map_map, List.all_map]
        rfl
      | table entries =>
        simp only [nodeOf, partsOf, List.map_map, List.all_map]
        rfl
      | set members => rfl
      | pairs entries => rfl
  · rw [cs.getD_levels_of_size_le _ h, cs.content?_of_size_le h, nodeOf, scalar, atom?,
      cs.content?_of_size_le h]
    · rfl
    all_goals simp

/-- A tree is made of trees of the level before. -/
theorem tree_succ (n i : Nat) : cs.tree (n + 1) i = cs.nodeOf i (cs.tree n) (cs.content? i) :=
  congrArg Prod.fst (cs.getD_levels_succ n i)

/-- Nothing of a tree is cut off if nothing of its parts is. -/
theorem isWhole_succ (n i : Nat) :
    cs.isWhole (n + 1) i = (partsOf (cs.content? i)).all (cs.isWhole n) :=
  congrArg Prod.snd (cs.getD_levels_succ n i)

theorem nodeOf_congr {i : Nat} {tree tree' : Nat → Node} {c : Option Content}
    (h : ∀ j ∈ partsOf c, tree j = tree' j) : cs.nodeOf i tree c = cs.nodeOf i tree' c := by
  rcases c with _ | c
  · rfl
  cases c with
  | list items => exact congrArg _ (List.map_congr_left h)
  | table entries =>
    refine congrArg _ (List.map_congr_left fun e he => ?_)
    rw [h e.2 (List.mem_map_of_mem he)]
  | _ => rfl

/-- A tree that is whole is the same on the next level, and whole there. -/
theorem whole_succ (n : Nat) :
    ∀ {i : Nat}, cs.isWhole n i = true →
      cs.isWhole (n + 1) i = true ∧ cs.tree (n + 1) i = cs.tree n i := by
  -- Induction on the level: the parts of a whole tree are whole on the level before.
  induction n with
  | zero =>
    intro i h
    rcases Nat.lt_or_ge i cs.size with hi | hi
    · simp [isWhole, levels, hi] at h
    · simp only [isWhole, tree, cs.getD_levels_of_size_le _ hi, and_self]
  | succ n ih =>
    intro i h
    rw [isWhole_succ, List.all_eq_true] at h
    refine ⟨?_, ?_⟩
    · rw [isWhole_succ, List.all_eq_true]
      exact fun j hj => (ih (h j hj)).1
    · rw [tree_succ, cs.tree_succ n]
      exact cs.nodeOf_congr fun j hj => (ih (h j hj)).2

theorem tree_add_of_isWhole {n i : Nat} (h : cs.isWhole n i = true) (m : Nat) :
    cs.isWhole (n + m) i = true ∧ cs.tree (n + m) i = cs.tree n i := by
  induction m with
  | zero => exact ⟨h, rfl⟩
  | succ m ih =>
    obtain ⟨hw, ht⟩ := cs.whole_succ (n + m) ih.1
    exact ⟨hw, ht.trans ih.2⟩

theorem unfold_eq_tree (root m : Nat) :
    ∀ n, cs.unfold root m (cs.levels n) = cs.tree (n + m) root := by
  induction m with
  | zero => exact fun n => rfl
  | succ m ih =>
    -- the unfolding stops early only at a tree that stays the same
    intro n
    rw [unfold]
    split
    · next node h =>
      have hw : cs.isWhole n root = true := congrArg Prod.snd h
      rw [(cs.tree_add_of_isWhole hw (m + 1)).2]
      exact (congrArg Prod.fst h).symm
    · exact (ih (n + 1)).trans (by rw [Nat.add_right_comm, Nat.add_assoc])

/-- The document is the tree of the last level. -/
theorem document_eq_tree (root : Nat) :
    cs.document root = cs.tree (cs.size + deepestPath) root := by
  have h := cs.unfold_eq_tree root (cs.size + deepestPath) 0
  rwa [Nat.zero_add] at h

end Contents

end SequenceApi.Yaml
