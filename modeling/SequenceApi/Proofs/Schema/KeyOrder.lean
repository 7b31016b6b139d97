import SequenceApi.Proofs.Schema.Skeleton

/-!
# Fingerprints and the order of keys

The order of an object's keys reaches its schema twice: as the order of the properties, and as the
order of the keys that are required. Sorting the keys of the schema undoes the first and leaves the
second, since required keys are a list. So two bodies that are the same up to the order of keys have
one fingerprint just if every object in the one requires its keys in the order in which the
corresponding object of the other does. Corresponding objects are at the end of one path, which goes
from a field to the next and into the first items of arrays.

## Main definitions

* `PathStep`, `Json.valueAt?`: paths into a body, and the value at the end of one
* `Schema.requiredAt`: the keys that are required at the end of a path

## Main results

* `Schema.fingerprint_eq_iff_requiredAt`: what the order of keys changes
-/

namespace SequenceApi

/-- A step into a body, as far as its schema goes. -/
inductive PathStep where
  /-- To the field under a key. -/
  | field (k : String)
  /-- To the first item of an array. -/
  | first
  deriving DecidableEq, Repr

namespace Json

/-- The value after one step. -/
def below? : PathStep → Json → Option Json
  | .field k, v => v.get? k
  | .first, .arr items => items.head?
  | .first, _ => none

/-- The value at the end of a path. -/
def valueAt? : List PathStep → Json → Option Json
  | [], v => some v
  | s :: path, v => (below? s v).bind (valueAt? path)

/-- What holds of a value whenever it holds after every step from it holds of every value. -/
theorem induction_below {motive : Json → Prop}
    (step : ∀ v : Json, (∀ s w, v.below? s = some w → motive w) → motive v) (v : Json) :
    motive v := by
  induction v using Json.induction with
  | arr items ih =>
    refine step _ fun s w hw => ?_
    cases s with
    | field k => cases hw
    | first => exact ih w (List.mem_of_head? hw)
  | obj fields ih =>
    refine step _ fun s w hw => ?_
    cases s with
    | field k => exact ih _ (Table.mem_of_find_eq_some hw)
    | first => cases hw
  | _ =>
    refine step _ fun s w hw => ?_
    cases s <;> cases hw

theorem DistinctKeys.below? {v w : Json} (h : v.DistinctKeys) {s : PathStep}
    (hw : v.below? s = some w) : w.DistinctKeys := by
  cases v with
  | arr items =>
    cases s with
    | field k => cases hw
    | first => exact h.item (List.mem_of_head? hw)
  | obj fields =>
    cases s with
    | field k => exact h.field (Table.mem_of_find_eq_some hw)
    | first => cases hw
  | _ => cases s <;> cases hw

/-- What is the same up to the order of keys is so after each step. -/
theorem Reordered.below? {v w : Json} (hv : v.DistinctKeys) (h : Reordered v w) (s : PathStep) :
    Option.Rel Reordered (v.below? s) (w.below? s) := by
  cases v with
  | arr items =>
    obtain ⟨items', rfl, hitems⟩ := h.exists_arr
    cases s with
    | field k => exact .none
    | first =>
      cases hitems with
      | nil => exact .none
      | cons hw _ => exact .some hw
  | obj fields =>
    obtain ⟨fields', rfl, -, hfind⟩ := h.find_obj hv.distinct
    cases s with
    | field k => exact hfind k
    | first => exact .none
  | _ =>
    cases h
    cases s <;> exact .none

end Json

namespace Schema

open Json (Reordered)

/-- The keys that a value requires: those of an object. -/
def ownRequired : Json → List String
  | .obj fields => requiredKeys fields
  | _ => []

/-- The keys that are required at the end of a path; none if the path leads nowhere. -/
def requiredAt (path : List PathStep) (v : Json) : List String :=
  ((v.valueAt? path).map ownRequired).getD []

section

variable {v w : Json}

@[simp] theorem requiredAt_nil (v : Json) : requiredAt [] v = ownRequired v := rfl

theorem requiredAt_cons_of_some {s : PathStep} (h : v.below? s = some w) (path : List PathStep) :
    requiredAt (s :: path) v = requiredAt path w := by
  rw [requiredAt, Json.valueAt?, h]
  rfl

theorem requiredAt_cons_of_none {s : PathStep} (h : v.below? s = none) (path : List PathStep) :
    requiredAt (s :: path) v = [] := by
  rw [requiredAt, Json.valueAt?, h]
  rfl

/-- The skeletons of two bodies that are the same up to the order of keys are compared step by
step: by the keys that are required here, and by what is below. -/
theorem skeleton_eq_iff_below (hv : v.DistinctKeys) (h : Reordered v w) :
    skeleton v = skeleton w ↔
      ownRequired v = ownRequired w ∧
        ∀ s, (v.below? s).map skeleton = (w.below? s).map skeleton := by
  cases v with
  | arr items =>
    obtain ⟨items', rfl, hitems⟩ := h.exists_arr
    rw [skeleton_arr_eq_iff]
    cases hitems with
    | nil => exact iff_of_true rfl ⟨rfl, fun s => rfl⟩
    | @cons v w items items' _ _ =>
      constructor
      · intro heq
        refine ⟨rfl, fun s => ?_⟩
        cases s with
        | field k => rfl
        | first => exact congrArg some heq
      · rintro ⟨-, hbelow⟩
        exact Option.some_inj.1 (hbelow .first)
  | obj fields =>
    obtain ⟨fields', rfl, hd', -⟩ := h.find_obj hv.distinct
    rw [skeleton_obj_eq_iff hv.distinct hd']
    refine and_congr_right fun _ => ⟨fun hfind s => ?_, fun hbelow k => hbelow (.field k)⟩
    cases s with
    | field k => exact hfind k
    | first => rfl
  | _ =>
    cases h
    exact iff_of_true rfl ⟨rfl, fun s => rfl⟩

/-- Two bodies that are the same up to the order of keys have one skeleton just if they require the
same keys in the same order at the end of every path. -/
theorem skeleton_eq_iff_requiredAt (hv : v.DistinctKeys) (h : Reordered v w) :
    skeleton v = skeleton w ↔ ∀ path, requiredAt path v = requiredAt path w := by
  induction v using Json.induction_below generalizing w with
  | step v ih =>
    rw [skeleton_eq_iff_below hv h]
    -- each step leads to two values, which are the same up to the order of keys, or nowhere
    have hstep (s : PathStep) : (v.below? s).map skeleton = (w.below? s).map skeleton ↔
        ∀ path, requiredAt (s :: path) v = requiredAt (s :: path) w := by
      have hs := h.below? hv s
      generalize hx : v.below? s = x, hy : w.below? s = y at hs ⊢
      cases hs with
      | none =>
        simp [requiredAt_cons_of_none hx, requiredAt_cons_of_none hy]
      | some hvw =>
        rw [Option.map_some, Option.map_some, Option.some_inj, ih s _ hx (hv.below? hx) hvw]
        simp only [requiredAt_cons_of_some hx, requiredAt_cons_of_some hy]
    simp only [hstep]
    constructor
    · rintro ⟨hown, hbelow⟩ path
      cases path with
      | nil => exact hown
      | cons s path => exact hbelow s path
    · exact fun hpath => ⟨hpath [], fun s path => hpath (s :: path)⟩

end

/-- **What the order of keys changes.** Two bodies that are the same up to the order of keys have one
fingerprint just if corresponding objects require the same keys in the same order. -/
theorem fingerprint_eq_iff_requiredAt {v w : Json} (hv : v.DistinctKeys) (h : Reordered v w) :
    fingerprint (infer v) = fingerprint (infer w) ↔
      ∀ path, requiredAt path v = requiredAt path w := by
  rw [fingerprint_eq_iff_skeleton]
  exact skeleton_eq_iff_requiredAt hv h

/-- An object of two fields. -/
def twoFields (k l : String) (v w : Json) : Json :=
  .obj [(k, v), (l, w)]

theorem reordered_twoFields (k l : String) (v w : Json) :
    Reordered (twoFields k l v w) (twoFields l k w v) := by
  have hsame : Json.SameFields [(k, v), (l, w)] [(k, v), (l, w)] :=
    List.forall₂_same.2 fun e _ => ⟨rfl, .refl _⟩
  exact hsame.reordered (List.Perm.swap _ _ _)

theorem distinctKeys_twoFields {k l : String} (h : k ≠ l) (s t : String) :
    (twoFields k l (.str s) (.str t)).DistinctKeys := by
  simp [twoFields, Json.distinctKeys_obj_iff, Json.distinctKeys_atom, Table.Distinct, h]

/-- One required key may stand anywhere. -/
theorem fingerprint_of_one_required :
    (twoFields "id" "name" (.str "integer, required") (.str "Ann")).DistinctKeys ∧
      Reordered (twoFields "id" "name" (.str "integer, required") (.str "Ann"))
        (twoFields "name" "id" (.str "Ann") (.str "integer, required")) ∧
      fingerprint (infer (twoFields "id" "name" (.str "integer, required") (.str "Ann"))) =
        fingerprint (infer (twoFields "name" "id" (.str "Ann") (.str "integer, required"))) := by
  have hd := distinctKeys_twoFields (show "id" ≠ "name" by decide) "integer, required" "Ann"
  have h := reordered_twoFields "id" "name" (.str "integer, required") (.str "Ann")
  refine ⟨hd, h, (fingerprint_eq_iff_requiredAt hd h).2 fun path => ?_⟩
  cases path with
  | nil => decide
  | cons s path =>
    -- after any step the two are at one value
    have hbelow : (twoFields "id" "name" (.str "integer, required") (.str "Ann")).below? s =
        (twoFields "name" "id" (.str "Ann") (.str "integer, required")).below? s := by
      cases s with
      | first => rfl
      | field k =>
        by_cases hk : k = "id"
        · simp [twoFields, Json.below?, Json.get?, Table.find, hk]
        · simp [twoFields, Json.below?, Json.get?, Table.find, hk]
    rw [requiredAt, requiredAt, Json.valueAt?, Json.valueAt?, hbelow]

/-- Two required keys may not change places. -/
theorem fingerprint_of_two_required :
    (twoFields "a" "b" (.str "string, required") (.str "string, required")).DistinctKeys ∧
      Reordered (twoFields "a" "b" (.str "string, required") (.str "string, required"))
        (twoFields "b" "a" (.str "string, required") (.str "string, required")) ∧
      fingerprint (infer (twoFields "a" "b" (.str "string, required") (.str "string, required"))) ≠
        fingerprint
          (infer (twoFields "b" "a" (.str "string, required") (.str "string, required"))) := by
  have hd := distinctKeys_twoFields (show "a" ≠ "b" by decide) "string, required" "string, required"
  have h := reordered_twoFields "a" "b" (.str "string, required") (.str "string, required")
  refine ⟨hd, h, fun heq => ?_⟩
  have hroot := (skeleton_eq_iff_requiredAt hd h).1 (fingerprint_eq_iff_skeleton.1 heq) []
  revert hroot
  decide

end Schema

end SequenceApi
