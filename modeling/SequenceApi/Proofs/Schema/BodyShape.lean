import SequenceApi.Proofs.Schema.Skeleton

/-!
# Fingerprints are shapes

The shape of a body says of every value in it what type its schema has: a string for nothing and for
texts, an array with the shape of its first item, and an object with the shapes of its fields, in no
order. If no text in two bodies is a rule, they have one fingerprint just if they have one shape.
Keys are names of properties here, whatever they spell: `example`, `items` and `$ref` are no
exceptions.

## Main definitions

* `BodyShape`, `bodyShape`: shapes, and the shape of a body
* `Schema.IsPlain`: no text in the body is a rule

## Main results

* `Schema.skeleton_eq_iff_bodyShape`: one skeleton, one shape
* `Schema.fingerprint_eq_iff_bodyShape`: one fingerprint, one shape
-/

namespace SequenceApi

/-- The shape of a body. -/
inductive BodyShape where
  | string
  | boolean
  | integer
  | number
  | array (items : BodyShape)
  /-- The shapes of the fields, by their keys. -/
  | object (fields : String → Option BodyShape)

namespace BodyShape

/-- The type of the schemas of bodies with a shape. -/
def type : BodyShape → SchemaType
  | string => .string
  | boolean => .boolean
  | integer => .integer
  | number => .number
  | array _ => .array
  | object _ => .object

/-- The shape of a value without parts. -/
def IsScalar : BodyShape → Prop
  | array _ | object _ => False
  | _ => True

/-- Shapes of values without parts are types. -/
theorem IsScalar.eq_of_type_eq {a b : BodyShape} (ha : a.IsScalar) (h : a.type = b.type) :
    a = b := by
  revert h
  cases a <;> cases b <;> simp_all [type, IsScalar]

theorem IsScalar.type_ne_array {a : BodyShape} (ha : a.IsScalar) : a.type ≠ .array := by
  cases a <;> simp_all [type, IsScalar]

theorem IsScalar.type_ne_object {a : BodyShape} (ha : a.IsScalar) : a.type ≠ .object := by
  cases a <;> simp_all [type, IsScalar]

end BodyShape

mutual

/-- The shape of a body that has no rules. -/
def bodyShape : Json → BodyShape
  | .null => .string
  | .bool _ => .boolean
  | .int _ => .integer
  | .float x => if x.isIntegral then .integer else .number
  | .str _ => .string
  | .arr items => .array (shapeOfFirst items)
  | .obj fields => .object (shapesOf fields)

/-- The shape of the first item; an empty array is one of strings. -/
def shapeOfFirst : List Json → BodyShape
  | [] => .string
  | v :: _ => bodyShape v

/-- The shape of the field under each key. -/
def shapesOf : List (String × Json) → String → Option BodyShape
  | [], _ => none
  | (k', v) :: fs, k => if k = k' then some (bodyShape v) else shapesOf fs k

end

theorem shapeOfFirst_eq (items : List Json) :
    shapeOfFirst items = bodyShape (items.head?.getD .null) := by
  cases items <;> rfl

theorem shapesOf_eq (fields : List (String × Json)) (k : String) :
    shapesOf fields k = (Table.find k fields).map bodyShape := by
  induction fields with
  | nil => rfl
  | cons e fields ih =>
    obtain ⟨k', v⟩ := e
    rw [shapesOf, Table.find]
    split
    · rfl
    · exact ih

theorem bodyShape_obj_eq_iff {fields fields' : List (String × Json)} :
    bodyShape (.obj fields) = bodyShape (.obj fields') ↔
      ∀ k, (Table.find k fields).map bodyShape = (Table.find k fields').map bodyShape := by
  rw [bodyShape, bodyShape, BodyShape.object.injEq, funext_iff]
  simp only [shapesOf_eq]

theorem bodyShape_arr_eq_iff {items items' : List Json} :
    bodyShape (.arr items) = bodyShape (.arr items') ↔
      bodyShape (items.head?.getD .null) = bodyShape (items'.head?.getD .null) := by
  rw [bodyShape, bodyShape, BodyShape.array.injEq, shapeOfFirst_eq, shapeOfFirst_eq]

theorem isScalar_bodyShape {v : Json} (harr : ∀ items, v ≠ .arr items)
    (hobj : ∀ fields, v ≠ .obj fields) : (bodyShape v).IsScalar := by
  cases v with
  | arr items => exact absurd rfl (harr items)
  | obj fields => exact absurd rfl (hobj fields)
  | float x =>
    rw [bodyShape]
    split <;> trivial
  | _ => trivial

/-- Only arrays have the type of arrays. -/
theorem exists_arr_of_type {w : Json} (h : (bodyShape w).type = .array) :
    ∃ items, w = .arr items := by
  cases w with
  | arr items => exact ⟨items, rfl⟩
  | obj fields => cases h
  | _ => exact absurd h (isScalar_bodyShape (by simp) (by simp)).type_ne_array

/-- Only objects have the type of objects. -/
theorem exists_obj_of_type {w : Json} (h : (bodyShape w).type = .object) :
    ∃ fields, w = .obj fields := by
  cases w with
  | arr items => cases h
  | obj fields => exact ⟨fields, rfl⟩
  | _ => exact absurd h (isScalar_bodyShape (by simp) (by simp)).type_ne_object

namespace Schema

/-- No text in the body is a rule. -/
def IsPlain (v : Json) : Prop :=
  ∀ s, v.Contains (.str s) → Rule.read? s = none

section

variable {v : Json} {items : List Json} {fields : List (String × Json)}

theorem IsPlain.of_contains {w : Json} (h : IsPlain v) (hw : v.Contains w) : IsPlain w :=
  fun s hs => h s (hw.trans hs)

theorem IsPlain.item (h : IsPlain (.arr items)) (hv : v ∈ items) : IsPlain v :=
  h.of_contains (.item hv (.self v))

theorem IsPlain.field (h : IsPlain (.obj fields)) {e : String × Json} (he : e ∈ fields) :
    IsPlain e.2 :=
  h.of_contains (.field he (.self _))

/-- The first item of a plain array is plain, and so is the nothing that stands for it. -/
theorem IsPlain.head (h : IsPlain (.arr items)) : IsPlain (items.head?.getD .null) := by
  cases items with
  | nil =>
    intro s hs
    cases hs
  | cons v items => exact h.item List.mem_cons_self

/-- No field of a plain object is required. -/
theorem requiredKeys_of_isPlain (h : IsPlain (.obj fields)) : requiredKeys fields = [] := by
  rw [requiredKeys, List.map_eq_nil_iff, List.filter_eq_nil_iff]
  intro e he hrequired
  unfold isRequired at hrequired
  split at hrequired
  · next s hs =>
    have hplain := h.field he s (hs ▸ .self _)
    simp [hplain] at hrequired
  · cases hrequired

end

/-! ## The type of a skeleton -/

theorem SchemaType.name_injective : Function.Injective SchemaType.name := by
  intro a b h
  revert h
  cases a <;> cases b <;> decide

/-- A value of a skeleton that says a type. -/
def Says (type : SchemaType) (w : Json) : Prop :=
  ∃ fields, w = Json.sortKeys (.obj fields) ∧ Table.Distinct fields ∧
    Table.find "type" fields = some (.str type.name)

theorem Says.unique {a b : SchemaType} {w : Json} (ha : Says a w) (hb : Says b w) : a = b := by
  obtain ⟨fields, rfl, hd, ht⟩ := ha
  obtain ⟨fields', h, hd', ht'⟩ := hb
  have htype := (Json.sortKeys_obj_eq_iff hd hd').1 h "type"
  rw [ht, ht'] at htype
  apply SchemaType.name_injective
  simpa [Json.sortKeys] using htype

theorem says_bare (type : SchemaType) : Says type (Json.sortKeys (bare type)) :=
  ⟨_, rfl, by simp [Table.Distinct], by simp [Table.find]⟩

/-- The skeleton of a value without parts is its type. -/
theorem skeleton_of_isScalar {v : Json} (h : IsPlain v) (hs : (bodyShape v).IsScalar) :
    skeleton v = Json.sortKeys (bare (bodyShape v).type) := by
  cases v with
  | null => rfl
  | bool b => rfl
  | int n => rfl
  | float x =>
    rw [bodyShape]
    cases hx : x.isIntegral <;>
      simp [skeleton, infer, hx, typed, bare, stripExamples, stripFields, BodyShape.type]
  | str s =>
    have hrule := h s (.self _)
    simp [skeleton, infer, ofString, hrule, typed, bare, stripExamples, stripFields, bodyShape,
      BodyShape.type]
  | arr items => exact hs.elim
  | obj fields => exact hs.elim

/-- The skeleton of a plain value says the type of its shape. -/
theorem says_skeleton {v : Json} (h : IsPlain v) : Says (bodyShape v).type (skeleton v) := by
  by_cases hs : (bodyShape v).IsScalar
  · rw [skeleton_of_isScalar h hs]
    exact says_bare _
  · cases v with
    | arr items =>
      rw [skeleton_arr]
      exact ⟨_, rfl, by simp [Table.Distinct], by simp [Table.find, bodyShape, BodyShape.type]⟩
    | obj fields =>
      rw [skeleton_obj]
      refine ⟨_, rfl, distinct_objectFields _ _, ?_⟩
      simp [objectFields, Table.find, bodyShape, BodyShape.type]
    | _ => exact absurd (isScalar_bodyShape (by simp) (by simp)) hs

/-! ## Skeletons and shapes -/

section

variable {v w : Json}

/-- One skeleton or one shape: in either case one type. -/
theorem type_eq_of_skeleton_eq (hv : IsPlain v) (hw : IsPlain w) (h : skeleton v = skeleton w) :
    (bodyShape v).type = (bodyShape w).type := by
  have hsays := says_skeleton hw
  rw [← h] at hsays
  exact (says_skeleton hv).unique hsays

theorem skeleton_eq_iff_of_isScalar (hv : IsPlain v) (hw : IsPlain w)
    (hs : (bodyShape v).IsScalar) : skeleton v = skeleton w ↔ bodyShape v = bodyShape w := by
  constructor
  · intro h
    exact hs.eq_of_type_eq (type_eq_of_skeleton_eq hv hw h)
  · intro h
    rw [skeleton_of_isScalar hv hs, skeleton_of_isScalar hw (h ▸ hs), h]

/-- Values of different types have neither one skeleton nor one shape. -/
theorem skeleton_eq_iff_of_type (hv : IsPlain v) (hw : IsPlain w)
    (h : (bodyShape v).type = (bodyShape w).type →
      (skeleton v = skeleton w ↔ bodyShape v = bodyShape w)) :
    skeleton v = skeleton w ↔ bodyShape v = bodyShape w := by
  constructor
  · intro hskeleton
    exact (h (type_eq_of_skeleton_eq hv hw hskeleton)).1 hskeleton
  · intro hshape
    exact (h (congrArg BodyShape.type hshape)).2 hshape

theorem map_eq_map_iff {α β γ : Type} {f : α → β} {g : α → γ} {x y : Option α}
    (h : ∀ a ∈ x, ∀ b ∈ y, f a = f b ↔ g a = g b) : x.map f = y.map f ↔ x.map g = y.map g := by
  cases x <;> cases y <;> simp_all

/-- Plain values have one skeleton just if they have one shape. -/
theorem skeleton_eq_iff_bodyShape (hdv : v.DistinctKeys) (hdw : w.DistinctKeys) (hv : IsPlain v)
    (hw : IsPlain w) : skeleton v = skeleton w ↔ bodyShape v = bodyShape w := by
  -- Induction on the first value. The second one is of the same type, or there is nothing to show.
  induction v using Json.induction generalizing w with
  | arr items ih =>
    refine skeleton_eq_iff_of_type hv hw fun htype => ?_
    obtain ⟨items', rfl⟩ := exists_arr_of_type htype.symm
    rw [skeleton_arr_eq_iff, bodyShape_arr_eq_iff]
    cases items with
    | nil => exact skeleton_eq_iff_of_isScalar hv.head hw.head trivial
    | cons v items =>
      exact ih v List.mem_cons_self (hdv.item List.mem_cons_self) hdw.head hv.head hw.head
  | obj fields ih =>
    refine skeleton_eq_iff_of_type hv hw fun htype => ?_
    obtain ⟨fields', rfl⟩ := exists_obj_of_type htype.symm
    rw [skeleton_obj_eq_iff hdv.distinct hdw.distinct, bodyShape_obj_eq_iff,
      requiredKeys_of_isPlain hv, requiredKeys_of_isPlain hw, eq_self, true_and]
    -- key by key
    refine forall_congr' fun k => map_eq_map_iff fun v hfind w hfind' => ?_
    have hmem := Table.mem_of_find_eq_some hfind
    have hmem' := Table.mem_of_find_eq_some hfind'
    exact ih _ hmem (hdv.field hmem) (hdw.field hmem') (hv.field hmem) (hw.field hmem')
  | _ => exact skeleton_eq_iff_of_isScalar hv hw (isScalar_bodyShape (by simp) (by simp))

end

/-- **Fingerprints are shapes.** Bodies without rules have one fingerprint just if they have one
shape. -/
theorem fingerprint_eq_iff_bodyShape {v w : Json} (hdv : v.DistinctKeys) (hdw : w.DistinctKeys)
    (hv : IsPlain v) (hw : IsPlain w) :
    fingerprint (infer v) = fingerprint (infer w) ↔ bodyShape v = bodyShape w := by
  rw [fingerprint_eq_iff_skeleton]
  exact skeleton_eq_iff_bodyShape hdv hdw hv hw

/-- A body whose keys are keywords of schemas and of references. -/
def keywordBody : Json :=
  .obj [("example", .int 1), ("items", .arr []), ("properties", .obj [("$ref", .str "x")])]

/-- A body of the same shape: other values, and the keys in another order. -/
def keywordTwin : Json :=
  .obj [("properties", .obj [("$ref", .null)]), ("items", .arr [.str "a", .int 2]),
    ("example", .float (.finite false 3 0))]

theorem fingerprint_keywordBody :
    keywordBody.DistinctKeys ∧ keywordTwin.DistinctKeys ∧ IsPlain keywordBody ∧
      IsPlain keywordTwin ∧ fingerprint (infer keywordBody) = fingerprint (infer keywordTwin) := by
  have hdv : keywordBody.DistinctKeys := by
    simp [keywordBody, Json.distinctKeys_obj_iff, Json.distinctKeys_arr_iff, Json.distinctKeys_atom,
      Table.Distinct]
  have hdw : keywordTwin.DistinctKeys := by
    simp [keywordTwin, Json.distinctKeys_obj_iff, Json.distinctKeys_arr_iff, Json.distinctKeys_atom,
      Table.Distinct]
  have hv : IsPlain keywordBody := by
    intro s hs
    obtain rfl : s = "x" := by
      simpa [keywordBody, Json.contains_obj_iff, Json.contains_arr_iff, Json.contains_atom_iff]
        using hs
    decide
  have hw : IsPlain keywordTwin := by
    intro s hs
    obtain rfl : s = "a" := by
      simpa [keywordTwin, Json.contains_obj_iff, Json.contains_arr_iff, Json.contains_atom_iff]
        using hs
    decide
  refine ⟨hdv, hdw, hv, hw, (fingerprint_eq_iff_bodyShape hdv hdw hv hw).2 ?_⟩
  have hx : (Binary64.finite false 3 0).isIntegral = true := by decide
  rw [keywordBody, keywordTwin, bodyShape_obj_eq_iff]
  intro k
  by_cases he : k = "example"
  · simp [Table.find, he, bodyShape, hx]
  · by_cases hi : k = "items"
    · simp [Table.find, hi, bodyShape, shapeOfFirst]
    · by_cases hp : k = "properties"
      · simp [Table.find, hp, bodyShape, shapesOf]
      · simp [Table.find, he, hi, hp]

end Schema

end SequenceApi
