import SequenceApi.Proofs.Json.Alike
import SequenceApi.Proofs.Schema.Instance
import SequenceApi.Proofs.Schema.KeyOrder

/-!
# What fingerprints tell apart

The fingerprint of a JSON value is the sorted compact text of the value without its examples. So it
tells apart all values that differ in more than examples, the order of keys and the forms of
numbers, whether they are schemas or not.

Examples are taken away where schemas stand: at the value itself, under the names of the properties
and at the items of a schema, and nowhere else. What stands at the end of a path is told by the path
alone. A property that is called `example` is no example, and an `example` in other data stays.

## Main definitions

* `Schema.Role`, `Schema.roleAt`: what stands at the end of a path into a schema
* `Schema.Pruned`: a value before and after its example is taken away

## Main results

* `Schema.valueAt?_strip`: what is left at the end of a path
* `Schema.fingerprint_eq_iff_alike`: the fingerprint as a complete invariant
-/

namespace SequenceApi.Schema

open Json (Alike)

/-- What stands at a place inside a schema. -/
inductive Role where
  /-- A schema. -/
  | schema
  /-- The schemas of properties, under their names. -/
  | properties
  /-- Anything else. -/
  | data
  deriving DecidableEq, Repr

namespace Role

/-- What stands after one step, unless it leads to the example of a schema. -/
def after : Role → PathStep → Option Role
  | .schema, .field k =>
    if k = "example" then none
    else if k = "properties" then some .properties
    else if k = "items" then some .schema
    else some .data
  | .properties, .field _ => some .schema
  | _, _ => some .data

/-- What is left of a value in its role without examples. -/
def strip : Role → Json → Json
  | .schema, v => stripExamples v
  | .properties, v => stripProperties v
  | .data, v => v

end Role

/-- What stands at the end of a path into a schema, unless the path leads into an example. -/
def roleAt (path : List PathStep) : Option Role :=
  path.foldlM Role.after .schema

/-- A value before and after its example is taken away. Only an object in the role of a schema has
one, and it keeps its other keys in their order. -/
inductive Pruned (r : Role) : Json → Json → Prop where
  | atom {v : Json} (h : ∀ fields, v ≠ .obj fields) : Pruned r v v
  | obj {fields fields' : List (String × Json)}
      (h : Table.keys fields' =
        if r = .schema then (Table.keys fields).filter (· ≠ "example") else Table.keys fields) :
      Pruned r (.obj fields) (.obj fields')

/-! ## Paths -/

/-- What is left after one step is what stands there without examples. -/
theorem below?_strip (r : Role) (v : Json) (s : PathStep) :
    (r.strip v).below? s = (r.after s).bind fun r' => (v.below? s).map r'.strip := by
  have hdata (o : Option Json) : o.map (Role.strip .data) = o := by cases o <;> rfl
  cases s with
  | first =>
    -- arrays are left as they are
    have hfirst : (r.strip v).below? .first = v.below? .first := by
      cases v <;> cases r <;> rfl
    rw [hfirst]
    cases r <;> exact (hdata _).symm
  | field k =>
    cases r with
    | schema =>
      change (stripExamples v).get? k = _
      rw [Role.after]
      by_cases hk : k = "example"
      · subst hk
        cases v with
        | obj fields =>
          rw [if_pos rfl, Option.bind_none]
          refine Table.find_eq_none_iff.2 ?_
          simp [keys_stripFields]
        | _ => rfl
      · rw [if_neg hk, get?_stripExamples hk]
        -- `stripAt` takes away what the role of the field says
        have hstrip : stripAt k = Role.strip (if k = "properties" then .properties
            else if k = "items" then .schema else .data) := by
          funext w
          rw [stripAt]
          split
          · rfl
          · split <;> rfl
        rw [hstrip]
        split
        · rfl
        · split <;> rfl
    | properties => exact get?_stripProperties k v
    | data => exact (hdata _).symm

/-- What is left at the end of a path is what stands there without examples, and nothing is left
inside of examples. -/
theorem valueAt?_strip (path : List PathStep) :
    ∀ (r : Role) (v : Json), (r.strip v).valueAt? path =
      (path.foldlM Role.after r).bind fun r' => (v.valueAt? path).map r'.strip := by
  induction path with
  | nil => exact fun r v => rfl
  | cons s path ih =>
    intro r v
    rw [Json.valueAt?, below?_strip, List.foldlM_cons]
    cases r.after s with
    | none => rfl
    | some r' =>
      rw [Json.valueAt?]
      cases v.below? s with
      | none => simp
      | some w => simpa using ih r' w

/-! ## What is taken away -/

theorem pruned_strip (r : Role) (v : Json) : Pruned r v (r.strip v) := by
  cases v with
  | obj fields =>
    cases r with
    | schema => exact .obj (by rw [if_pos rfl, keys_stripFields])
    | properties =>
      refine .obj ?_
      rw [stripEach_eq_map, if_neg (by decide), Table.keys, Table.keys, List.map_map]
      rfl
    | data => exact .obj (by rw [if_neg (by decide)])
  | _ => cases r <;> exact .atom (by simp)

theorem stripFields_eq_map (fields : List (String × Json)) :
    stripFields fields =
      (fields.filter fun e => e.1 ≠ "example").map fun e => (e.1, stripAt e.1 e.2) := by
  induction fields with
  | nil => rfl
  | cons e fields ih =>
    obtain ⟨k, v⟩ := e
    rw [stripFields]
    by_cases hk : k = "example"
    · rw [if_pos hk, ih, List.filter_cons_of_neg (by simpa using hk)]
    · rw [if_neg hk, ih, List.filter_cons_of_pos (by simpa using hk), List.map_cons, stripAt]
      split
      · rfl
      · split <;> rfl

/-- Taking examples away once is enough, from a schema and from the properties of one. -/
theorem strip_strip (v : Json) :
    stripExamples (stripExamples v) = stripExamples v ∧
      stripProperties (stripProperties v) = stripProperties v := by
  induction v using Json.induction with
  | obj fields ih =>
    constructor
    · have hat (e : String × Json) (he : e ∈ fields) :
          stripAt e.1 (stripAt e.1 e.2) = stripAt e.1 e.2 := by
        simp only [stripAt]
        split
        · exact (ih e he).2
        · split
          · exact (ih e he).1
          · rfl
      -- no example is left to be taken away, and what is left below stays
      have hfilter : (stripFields fields).filter (fun e => e.1 ≠ "example") = stripFields fields := by
        rw [stripFields_eq_map, List.filter_map, List.filter_filter]
        congr 1
        exact List.filter_congr fun e _ => Bool.and_self _
      rw [stripExamples, stripExamples, stripFields_eq_map (stripFields fields), hfilter,
        stripFields_eq_map, List.map_map]
      congr 1
      refine List.map_congr_left fun e he => ?_
      exact congrArg (Prod.mk e.1) (hat e (List.mem_of_mem_filter he))
    · rw [stripProperties, stripProperties, stripEach_eq_map, stripEach_eq_map, List.map_map]
      congr 1
      refine List.map_congr_left fun e he => ?_
      exact congrArg (Prod.mk e.1) (ih e he).1
  | _ => exact ⟨rfl, rfl⟩

/-- **A complete invariant.** A value whose objects are maps has the fingerprint of another one just
if the two are alike without their examples. Taking examples away once is enough; and of what stands
at the end of a path, the example is taken away if it is a schema, nothing is left if the path leads
into an example, and all the rest is kept. -/
theorem fingerprint_eq_iff_alike {s : Json} (hs : s.DistinctKeys) (t : Json) :
    (fingerprint s = fingerprint t ↔ Alike (stripExamples s) (stripExamples t)) ∧
      stripExamples (stripExamples s) = stripExamples s ∧
      ∀ path, match roleAt path with
        | none => (stripExamples s).valueAt? path = none
        | some r => Option.Rel (Pruned r) (s.valueAt? path) ((stripExamples s).valueAt? path) := by
  refine ⟨Json.print_sortKeys_eq_iff (distinctKeys_strip hs).1, (strip_strip s).1, fun path => ?_⟩
  have hpath : (stripExamples s).valueAt? path =
      (roleAt path).bind fun r => (s.valueAt? path).map r.strip := valueAt?_strip path .schema s
  rw [hpath]
  cases roleAt path with
  | none => rfl
  | some r =>
    cases s.valueAt? path with
    | none => exact .none
    | some v => exact .some (pruned_strip r v)

/-- A schema with one property, which is called `example` and has an example. -/
def ofNamedExample : Json :=
  .obj [("type", .str "object"),
    ("properties", .obj [("example", .obj [("type", .str "string"), ("example", .str "x")])])]

/-- The same schema in another order without the example. -/
def ofNamedExampleTurned : Json :=
  .obj [("properties", .obj [("example", .obj [("type", .str "string")])]),
    ("type", .str "object")]

/-- The property stays, and its example goes. -/
theorem fingerprint_of_namedExample :
    ofNamedExample.DistinctKeys ∧ fingerprint ofNamedExample = fingerprint ofNamedExampleTurned ∧
      fingerprint ofNamedExample ≠ fingerprint (.obj [("type", .str "object")]) := by
  have hd : ofNamedExample.DistinctKeys := by
    simp [ofNamedExample, Json.distinctKeys_obj_iff, Json.distinctKeys_atom, Table.Distinct]
  have hstrip : stripExamples ofNamedExample = .obj [("type", .str "object"),
      ("properties", .obj [("example", .obj [("type", .str "string")])])] := by
    simp [ofNamedExample, stripExamples, stripFields, stripProperties, stripEach]
  refine ⟨hd, (fingerprint_eq_iff_alike hd _).1.2 ?_, fun h => ?_⟩
  · have hturned : stripExamples ofNamedExampleTurned = ofNamedExampleTurned := by
      simp [ofNamedExampleTurned, stripExamples, stripFields, stripProperties, stripEach]
    rw [hstrip, hturned]
    have hsame (v : Json) : Alike v v := (Json.Twin.refl v).alike
    exact .obj rfl (.cons (hsame _) (.cons (hsame _) .nil)) (List.Perm.swap _ _ _)
  · -- alike objects have as many fields
    have halike := (fingerprint_eq_iff_alike hd _).1.1 h
    rw [hstrip] at halike
    cases halike with
    | number hv => cases hv
    | obj hk _ hp =>
      have hlength := hp.length_eq
      have hlength' := congrArg List.length hk
      simp [stripFields] at hlength hlength'
      omega

end SequenceApi.Schema
