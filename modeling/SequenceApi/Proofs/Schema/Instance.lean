import SequenceApi.Proofs.Schema.BodyShape
import SequenceApi.Proofs.Schema.Registration

/-!
# Instances of schemas

A value is an instance of a schema if it has the type that the schema says, if each of its items is
an instance of the schema of items, and if each of its fields is an instance of the schema of the
property under its key. A number without a fraction is an integer, however it is written. What a
schema says besides (examples, required keys, bounds) plays no part here.

Every body is an instance of its own inferred schema, if all of its arrays have items of one shape:
an array has the schema of its first item. And what is an instance of a schema is read off the shape
of the schema, for examples do not count and keys are looked up. So a body is an instance of every
inferred schema with the fingerprint of its own, and of the component that takes the place of that.

## Main definitions

* `SchemaType.holds`, `Schema.hasType`: values of a type, and of the type that a schema says
* `Schema.admits`: the instances of a schema
* `Schema.IsCongruence`: a relation between schemas that goes on to their parts
* `Schema.IsUniform`: the bodies whose arrays have items of one shape

## Main results

* `Schema.IsCongruence.admits_eq`: related schemas have the same instances
* `Schema.admits_infer_congr`: so have inferred schemas with one fingerprint
* `Schema.IsUniform.admits_infer`: a body is an instance of its own schema
* `Schema.admits_merged`: and of every schema that it shares
-/

namespace SequenceApi

/-- The values of a type. -/
def SchemaType.holds : SchemaType → Json → Bool
  | .string, .str _ => true
  | .integer, .int _ => true
  | .integer, .float x => x.isIntegral
  | .number, .int _ => true
  | .number, .float _ => true
  | .boolean, .bool _ => true
  | .array, .arr _ => true
  | .object, .obj _ => true
  | _, _ => false

namespace Schema

open Json (Reordered)

/-! ## Instances -/

/-- The name of the type that a schema says. -/
def typeName? (schema : Json) : Option String :=
  (schema.get? "type").bind Json.str?

/-- The schema of a schema's property with a name. -/
def property? (schema : Json) (k : String) : Option Json :=
  (schema.get? "properties").bind (Json.get? k)

/-- The value has the type that a schema says. A schema that says none leaves it open. -/
def hasType (schema v : Json) : Bool :=
  (typeName? schema).all fun name => (SchemaType.ofName? name).any (·.holds v)

mutual

/-- The value is an instance of a schema. -/
def admits (schema : Json) : Json → Bool
  | .arr items => hasType schema (.arr items) && admitsItems (schema.get? "items") items
  | .obj fields => hasType schema (.obj fields) && admitsFields (property? schema) fields
  | v => hasType schema v

/-- Each item is an instance of the schema of items, if there is one. -/
def admitsItems (schema : Option Json) : List Json → Bool
  | [] => true
  | v :: vs => (schema.all fun s => admits s v) && admitsItems schema vs

/-- Each field is an instance of the schema of the property under its key, if there is one. -/
def admitsFields (schemas : String → Option Json) : List (String × Json) → Bool
  | [] => true
  | (k, v) :: fs => ((schemas k).all fun s => admits s v) && admitsFields schemas fs

end

section

variable {schema : Json} {items : List Json} {fields : List (String × Json)}

theorem admitsItems_iff {schema : Option Json} :
    admitsItems schema items = true ↔ ∀ s ∈ schema, ∀ v ∈ items, admits s v = true := by
  induction items with
  | nil => simp [admitsItems]
  | cons v vs ih =>
    rw [admitsItems, Bool.and_eq_true, ih]
    cases schema <;> simp

theorem admitsFields_iff {schemas : String → Option Json} :
    admitsFields schemas fields = true ↔
      ∀ e ∈ fields, ∀ s ∈ schemas e.1, admits s e.2 = true := by
  induction fields with
  | nil => simp [admitsFields]
  | cons e fs ih =>
    obtain ⟨k, v⟩ := e
    rw [admitsFields, Bool.and_eq_true, ih, List.forall_mem_cons]
    cases schemas k <;> simp

theorem admits_arr_iff :
    admits schema (.arr items) = true ↔ hasType schema (.arr items) = true ∧
      ∀ s ∈ schema.get? "items", ∀ v ∈ items, admits s v = true := by
  rw [admits, Bool.and_eq_true, admitsItems_iff]

theorem admits_obj_iff :
    admits schema (.obj fields) = true ↔ hasType schema (.obj fields) = true ∧
      ∀ e ∈ fields, ∀ s ∈ property? schema e.1, admits s e.2 = true := by
  rw [admits, Bool.and_eq_true, admitsFields_iff]

/-- Of a value without parts only the type counts. -/
theorem admits_atom {v : Json} (harr : ∀ items, v ≠ .arr items) (hobj : ∀ fields, v ≠ .obj fields) :
    admits schema v = hasType schema v := by
  cases v with
  | arr items => exact absurd rfl (harr items)
  | obj fields => exact absurd rfl (hobj fields)
  | _ => rfl

end

/-! ## Schemas with the same instances -/

/-- A relation between schemas that say one type and have related parts. -/
structure IsCongruence (R : Json → Json → Prop) : Prop where
  type : ∀ {s t}, R s t → typeName? s = typeName? t
  items : ∀ {s t}, R s t → Option.Rel R (s.get? "items") (t.get? "items")
  property : ∀ {s t}, R s t → ∀ k, Option.Rel R (property? s k) (property? t k)

section

variable {R S : Json → Json → Prop} {o o' : Option Json}

theorem IsCongruence.hasType_eq (hR : IsCongruence R) {s t : Json} (h : R s t) (v : Json) :
    hasType s v = hasType t v := by
  rw [hasType, hasType, hR.type h]

/-- What holds of one of two related schemas or of neither holds of parts that may be missing. -/
theorem forall_mem_iff_of_rel (h : Option.Rel R o o') {P : Json → Prop}
    (hP : ∀ s t, R s t → (P s ↔ P t)) : (∀ s ∈ o, P s) ↔ ∀ t ∈ o', P t := by
  cases h with
  | none => simp
  | some h => simpa using hP _ _ h

theorem bind_eq_of_rel (h : Option.Rel R o o') {α : Type} {f : Json → Option α}
    (hf : ∀ s t, R s t → f s = f t) : o.bind f = o'.bind f := by
  cases h with
  | none => rfl
  | some h => exact hf _ _ h

theorem rel_and (h : Option.Rel R o o') {P : Json → Prop} (hP : ∀ s ∈ o, P s) :
    Option.Rel (fun s t => P s ∧ R s t) o o' := by
  cases h with
  | none => exact .none
  | some h => exact .some ⟨hP _ rfl, h⟩

theorem rel_bind (h : Option.Rel R o o') {f g : Json → Option Json}
    (hfg : ∀ s ∈ o, ∀ t, R s t → Option.Rel S (f s) (g t)) :
    Option.Rel S (o.bind f) (o'.bind g) := by
  cases h with
  | none => exact .none
  | some h => exact hfg _ rfl _ h

theorem rel_map (f : Json → Json) (o : Option Json) :
    Option.Rel (fun s t => t = f s) o (o.map f) := by
  cases o with
  | none => exact .none
  | some s => exact .some rfl

/-- Related schemas have the same instances. -/
theorem IsCongruence.admits_eq (hR : IsCongruence R) {s t : Json} (h : R s t) (w : Json) :
    admits s w = admits t w := by
  -- Induction on the value: its parts are compared with parts of the schemas, which are related.
  induction w using Json.induction generalizing s t with
  | arr items ih =>
    rw [Bool.eq_iff_iff, admits_arr_iff, admits_arr_iff, hR.hasType_eq h]
    refine and_congr_right' (forall_mem_iff_of_rel (hR.items h) ?_)
    intro s t hst
    exact forall₂_congr fun v hv => by rw [ih v hv hst]
  | obj fields ih =>
    rw [Bool.eq_iff_iff, admits_obj_iff, admits_obj_iff, hR.hasType_eq h]
    refine and_congr_right' (forall₂_congr fun e he => ?_)
    refine forall_mem_iff_of_rel (hR.property h e.1) ?_
    intro s t hst
    rw [ih e he hst]
  | _ => exact hR.hasType_eq h _

end

/-! ### Without examples -/

/-- What is left of a field without examples. -/
def stripAt (k : String) (v : Json) : Json :=
  if k = "properties" then stripProperties v else if k = "items" then stripExamples v else v

theorem find_stripFields {k : String} (hk : k ≠ "example") (fields : List (String × Json)) :
    Table.find k (stripFields fields) = (Table.find k fields).map (stripAt k) := by
  induction fields with
  | nil => rfl
  | cons e fields ih =>
    obtain ⟨k', v⟩ := e
    rw [stripFields, Table.find]
    by_cases hkk : k = k'
    · -- the field itself, which is no example
      subst hkk
      rw [if_neg hk, if_pos rfl, Option.map_some, stripAt]
      split
      · rw [Table.find, if_pos rfl]
      · split <;> rw [Table.find, if_pos rfl]
    · rw [if_neg hkk, ← ih]
      split
      · rfl
      · split
        · rw [Table.find, if_neg hkk]
        · split <;> rw [Table.find, if_neg hkk]

theorem get?_stripExamples {k : String} (hk : k ≠ "example") (s : Json) :
    (stripExamples s).get? k = (s.get? k).map (stripAt k) := by
  cases s with
  | obj fields => exact find_stripFields hk fields
  | _ => rfl

theorem get?_stripProperties (k : String) (p : Json) :
    (stripProperties p).get? k = (p.get? k).map stripExamples := by
  cases p with
  | obj props =>
    rw [stripProperties, stripEach_eq_map]
    exact Table.find_map _ k props
  | _ => rfl

/-- Examples do not count. -/
theorem isCongruence_stripExamples : IsCongruence fun s t => t = stripExamples s where
  type := by
    rintro s _ rfl
    have hget : (stripExamples s).get? "type" = (s.get? "type").map id :=
      get?_stripExamples (by decide) s
    rw [typeName?, typeName?, hget, Option.map_id, id]
  items := by
    rintro s _ rfl
    have hget : (stripExamples s).get? "items" = (s.get? "items").map stripExamples :=
      get?_stripExamples (by decide) s
    rw [hget]
    exact rel_map stripExamples _
  property := by
    rintro s _ rfl k
    have hget : (stripExamples s).get? "properties" = (s.get? "properties").map stripProperties :=
      get?_stripExamples (by decide) s
    rw [property?, property?, hget]
    refine rel_bind (rel_map stripProperties _) ?_
    rintro p - _ rfl
    rw [get?_stripProperties]
    exact rel_map stripExamples _

/-! ### In another order -/

theorem get?_of_reordered {s t : Json} (hs : s.DistinctKeys) (h : Reordered s t) (k : String) :
    Option.Rel Reordered (s.get? k) (t.get? k) := by
  cases s with
  | obj fields =>
    obtain ⟨fields', rfl, -, hfind⟩ := h.find_obj hs.distinct
    exact hfind k
  | arr items =>
    obtain ⟨items', rfl, -⟩ := h.exists_arr
    exact .none
  | _ =>
    cases h
    exact .none

theorem distinctKeys_of_get? {s v : Json} {k : String} (hs : s.DistinctKeys)
    (h : s.get? k = some v) : v.DistinctKeys := by
  cases s with
  | obj fields => exact hs.field (Table.mem_of_find_eq_some h)
  | _ => cases h

/-- A part of two schemas that are the same up to the order of keys. -/
theorem rel_get?_of_reordered {s t : Json} (hs : s.DistinctKeys) (h : Reordered s t) (k : String) :
    Option.Rel (fun s t => s.DistinctKeys ∧ Reordered s t) (s.get? k) (t.get? k) :=
  rel_and (get?_of_reordered hs h k) fun _ hv => distinctKeys_of_get? hs hv

/-- The order of keys does not count. -/
theorem isCongruence_reordered : IsCongruence fun s t => s.DistinctKeys ∧ Reordered s t where
  type := by
    rintro s t ⟨hs, h⟩
    refine bind_eq_of_rel (get?_of_reordered hs h "type") ?_
    rintro v w (_ | _ | _) <;> rfl
  items := by
    rintro s t ⟨hs, h⟩
    exact rel_get?_of_reordered hs h "items"
  property := by
    rintro s t ⟨hs, h⟩ k
    refine rel_bind (rel_get?_of_reordered hs h "properties") ?_
    rintro p - q ⟨hp, hpq⟩
    exact rel_get?_of_reordered hp hpq k

/-! ## Inferred schemas -/

theorem keys_stripFields (fields : List (String × Json)) :
    Table.keys (stripFields fields) = (Table.keys fields).filter (· ≠ "example") := by
  induction fields with
  | nil => rfl
  | cons e fields ih =>
    obtain ⟨k, v⟩ := e
    rw [stripFields, Table.keys_cons]
    by_cases hk : k = "example"
    · rw [if_pos hk, ih, List.filter_cons_of_neg (by simpa using hk)]
    · rw [if_neg hk, List.filter_cons_of_pos (by simpa using hk), ← ih]
      split
      · rfl
      · split <;> rfl

/-- A schema whose objects are maps is one of maps without its examples. -/
theorem distinctKeys_strip {s : Json} (hs : s.DistinctKeys) :
    (stripExamples s).DistinctKeys ∧ (stripProperties s).DistinctKeys := by
  induction s using Json.induction with
  | arr items => exact ⟨hs, hs⟩
  | obj fields ih =>
    have hparts (e : String × Json) (he : e ∈ fields) := ih e he (hs.field he)
    constructor
    · rw [stripExamples, Json.distinctKeys_obj_iff]
      constructor
      · rw [Table.Distinct, keys_stripFields]
        exact hs.distinct.filter _
      · intro e he
        obtain ⟨v, hv, hstrip⟩ := mem_stripFields he
        rcases hstrip with hstrip | hstrip | hstrip
        · exact hstrip ▸ hs.field hv
        · exact hstrip ▸ (hparts _ hv).1
        · exact hstrip ▸ (hparts _ hv).2
    · rw [stripProperties, stripEach_eq_map, Json.distinctKeys_obj_iff]
      refine ⟨distinct_map_values hs.distinct stripExamples, fun e he => ?_⟩
      obtain ⟨f, hf, rfl⟩ := List.mem_map.1 he
      exact (hparts f hf).1
  | _ => exact ⟨hs, hs⟩

/-- The schema of a body whose objects are maps is one of maps. -/
theorem distinctKeys_infer {v : Json} (hv : v.DistinctKeys) : (infer v).DistinctKeys := by
  have htext (s : String) : (Json.str s).DistinctKeys := Json.distinctKeys_atom (by simp) (by simp)
  have hbare (type : SchemaType) : (bare type).DistinctKeys := by
    simpa [bare, Json.distinctKeys_obj_iff, Table.Distinct] using htext _
  have htyped (type : SchemaType) {w : Json} (hw : w.DistinctKeys) :
      (typed type w).DistinctKeys := by
    simpa [typed, Json.distinctKeys_obj_iff, Table.Distinct] using ⟨htext _, hw⟩
  induction v using Json.induction with
  | null => exact hbare .string
  | bool b => exact htyped .boolean hv
  | int n => exact htyped .integer hv
  | float x => exact htyped _ hv
  | str s =>
    rw [infer, ofString]
    split
    · next rule h =>
      have hrule : rule.toSchema.IsWithin 1 := (Rule.isReadable_of_read? h).toSchema
      exact hrule.readable.distinctKeys
    · exact htyped .string hv
  | arr items ih =>
    have hfirst : (inferFirst items).DistinctKeys := by
      cases items with
      | nil => exact hbare .string
      | cons v vs => exact ih v List.mem_cons_self (hv.item List.mem_cons_self)
    simpa [infer, Json.distinctKeys_obj_iff, Table.Distinct] using ⟨htext _, hfirst, hv⟩
  | obj fields ih =>
    have hprops : (Json.obj (inferFields fields)).DistinctKeys := by
      rw [inferFields_eq_map, Json.distinctKeys_obj_iff]
      refine ⟨distinct_map_values hv.distinct infer, fun e he => ?_⟩
      obtain ⟨f, hf, rfl⟩ := List.mem_map.1 he
      exact ih f hf (hv.field hf)
    have hrequired : (Json.strs (requiredKeys fields)).DistinctKeys := by
      rw [Json.strs, Json.distinctKeys_arr_iff]
      intro w hw
      obtain ⟨s, -, rfl⟩ := List.mem_map.1 hw
      exact htext s
    rw [infer, Json.distinctKeys_obj_iff]
    constructor
    · split <;> simp [Table.Distinct]
    · simp only [List.cons_append, List.nil_append, List.forall_mem_cons]
      refine ⟨htext _, hprops, fun e he => ?_⟩
      split at he
      · cases he
      · obtain rfl := List.mem_singleton.1 he
        exact hrequired

/-- Inferred schemas with one fingerprint have the same instances. -/
theorem admits_infer_congr {u v : Json} (hu : u.DistinctKeys)
    (h : fingerprint (infer u) = fingerprint (infer v)) (w : Json) :
    admits (infer u) w = admits (infer v) w := by
  have hdistinct := (distinctKeys_strip (distinctKeys_infer hu)).1
  have hshape : Reordered (stripExamples (infer u)) (stripExamples (infer v)) :=
    IsInferred.reordered ⟨u, rfl⟩ ⟨v, rfl⟩ h
  calc admits (infer u) w
      = admits (stripExamples (infer u)) w := isCongruence_stripExamples.admits_eq rfl w
    _ = admits (stripExamples (infer v)) w := isCongruence_reordered.admits_eq ⟨hdistinct, hshape⟩ w
    _ = admits (infer v) w := (isCongruence_stripExamples.admits_eq rfl w).symm

/-! ## Bodies and their schemas -/

/-- A body without nothing and without rules, each of whose arrays has items of one fingerprint. -/
structure IsUniform (w : Json) : Prop where
  distinct : w.DistinctKeys
  complete : ¬ w.Contains .null
  plain : IsPlain w
  items : ∀ items, w.Contains (.arr items) → ∀ a ∈ items, ∀ b ∈ items,
    fingerprint (infer a) = fingerprint (infer b)

/-- What is inside such a body is such a body. -/
theorem IsUniform.of_contains {v w : Json} (h : IsUniform w) (hv : w.Contains v) : IsUniform v where
  distinct := fun fields hf => h.distinct fields (hv.trans hf)
  complete := fun hnull => h.complete (hv.trans hnull)
  plain := h.plain.of_contains hv
  items := fun items hi => h.items items (hv.trans hi)

/-- The schema of a property is that of the value under its key. -/
theorem property?_infer (fields : List (String × Json)) (k : String) :
    property? (infer (.obj fields)) k = (Table.find k fields).map infer := by
  rw [← Table.find_map, ← inferFields_eq_map]
  rfl

theorem hasType_typed (type : SchemaType) (v w : Json) :
    hasType (typed type v) w = type.holds w := by
  cases type <;> rfl

/-- Every such body is an instance of its own schema. -/
theorem IsUniform.admits_infer {w : Json} (h : IsUniform w) : admits (infer w) w = true := by
  -- Induction on the body. An item of an array has the fingerprint of the first item, whose schema
  -- is that of all items.
  induction w using Json.induction with
  | null => exact absurd (.self _) h.complete
  | bool b => exact hasType_typed .boolean _ _
  | int n => exact hasType_typed .integer _ _
  | float x =>
    rw [infer, admits_atom (by simp) (by simp), hasType_typed]
    cases hx : x.isIntegral
    · rfl
    · exact hx
  | str s =>
    have hrule := h.plain s (.self _)
    rw [infer, ofString, hrule]
    exact hasType_typed .string _ _
  | arr items ih =>
    rw [admits_arr_iff]
    refine ⟨rfl, ?_⟩
    intro s hs v hv
    obtain rfl : inferFirst items = s := by simpa [infer, Json.get?, Table.find] using hs
    cases items with
    | nil => cases hv
    | cons first rest =>
      have huniform := h.of_contains (.item hv (.self v))
      have hshape := h.items _ (.self _) v hv first List.mem_cons_self
      rw [inferFirst, ← admits_infer_congr huniform.distinct hshape v]
      exact ih v hv huniform
  | obj fields ih =>
    rw [admits_obj_iff]
    refine ⟨rfl, ?_⟩
    rintro e he s hs
    rw [property?_infer, h.distinct.distinct.find_of_mem he] at hs
    obtain rfl := Option.some_inj.1 hs
    exact ih e he (h.of_contains (.field he (.self e.2)))

/-! ## Shared schemas -/

/-- The schema of a body whose objects are maps. -/
def IsOfMaps (s : Json) : Prop :=
  ∃ v, v.DistinctKeys ∧ infer v = s

/-- A body is an instance of the component to which a reference takes the place of its schema. -/
theorem IsUniform.exists_component {w : Json} (hw : IsUniform w) {r : Registry} (hr : r.Sound)
    (hall : r.All IsOfMaps) {name : String}
    (hx : (r.extract (infer w)).schema = componentRef name) :
    ∃ component, Table.find name (r.extract (infer w)).registry.components = some component ∧
      admits component w = true := by
  have hmaps : (r.extract (infer w)).registry.All IsOfMaps :=
    hall.extract ⟨w, hw.distinct, rfl⟩
  rcases hr.extract_schema (infer w) with ⟨-, hstays⟩ | ⟨-, -, name', component, href, hfind, hkey⟩
  · -- an inferred schema says a type, and a reference says none
    obtain ⟨type, fields, hinfer⟩ : ∃ type fields, infer w = .obj (("type", .str type) :: fields) :=
      IsInferred.eq_obj ⟨w, rfl⟩
    rw [hx, hinfer] at hstays
    simp [componentRef] at hstays
  · obtain rfl : name = name' := Registry.componentRef_injective (hx.symm.trans href)
    refine ⟨component, hfind, ?_⟩
    -- the component is inferred from a body as well, with the fingerprint of this one
    obtain ⟨v, hv, rfl⟩ := hmaps name component hfind
    rw [admits_infer_congr hv hkey]
    exact hw.admits_infer

/-- **A shared schema describes every body merged into it.** A body whose arrays have items of one
shape, without nothing and without rules, is an instance of every inferred schema with the
fingerprint of its own, so of its own schema; and if a reference takes the place of that, whatever
bodies a service has met before and meets later, then the body is an instance of the component that
the reference means. -/
theorem admits_merged {v w : Json} (hv : v.DistinctKeys) (hw : IsUniform w) :
    (fingerprint (infer v) = fingerprint (infer w) → admits (infer v) w = true) ∧
      admits (infer w) w = true ∧
      ∀ (usage : Table String Nat) (before later : List Json) (name : String),
        (∀ b ∈ before, b.DistinctKeys) →
        let x := (Registry.extractAll { usage } (before.map infer)).extract (infer w)
        x.schema = componentRef name →
        ∃ component, Table.find name (x.registry.extractAll later).components = some component ∧
          admits component w = true := by
  refine ⟨fun h => ?_, hw.admits_infer, ?_⟩
  · rw [admits_infer_congr hv h]
    exact hw.admits_infer
  · intro usage before later name hbefore x hx
    have hsound := ((Registry.isOrderly_ofUsage usage).extractAll (before.map infer)).sound
    have hall : Registry.All IsOfMaps (Registry.extractAll { usage } (before.map infer)) := by
      refine Registry.All.extractAll ?_ (by simp [Registry.All])
      intro s hs
      obtain ⟨b, hb, rfl⟩ := List.mem_map.1 hs
      exact ⟨b, hbefore b hb, rfl⟩
    obtain ⟨component, hfind, hadmits⟩ := hw.exists_component hsound hall hx
    -- later calls leave the component as it is
    exact ⟨component, Registry.Extends.extractAll later _ _ _ hfind, hadmits⟩

/-- A body whose items differ in their values alone, which are integers however they are written. -/
def orderBody : Json :=
  .obj [("items", .arr [.obj [("count", .int 1)], .obj [("count", .float (.finite false 1 1))]]),
    ("example", .arr [])]

/-- A body of the same shape, with nothing for a text, and with items of two shapes. -/
def orderTwin : Json :=
  .obj [("example", .arr [.null]), ("items", .arr [.obj [("count", .int 7)], .bool true])]

theorem distinctKeys_orderTwin : orderTwin.DistinctKeys := by
  simp [orderTwin, Json.distinctKeys_obj_iff, Json.distinctKeys_arr_iff, Json.distinctKeys_atom,
    Table.Distinct]

theorem isUniform_orderBody : IsUniform orderBody where
  distinct := by
    simp [orderBody, Json.distinctKeys_obj_iff, Json.distinctKeys_arr_iff, Json.distinctKeys_atom,
      Table.Distinct]
  complete := by
    simp [orderBody, Json.contains_obj_iff, Json.contains_arr_iff, Json.contains_atom_iff]
  plain := by
    intro s hs
    simp [orderBody, Json.contains_obj_iff, Json.contains_arr_iff, Json.contains_atom_iff] at hs
  items := by
    intro items hitems a ha b hb
    -- an array inside is that of the items, or the empty one
    have hshape : ∀ v ∈ [Json.obj [("count", .int 1)], .obj [("count", .float (.finite false 1 1))]],
        fingerprint (infer v) = fingerprint (infer (.obj [("count", .int 1)])) := by
      intro v hv
      rcases List.mem_pair.1 hv with rfl | rfl <;> rfl
    have hcases : items = [.obj [("count", .int 1)], .obj [("count", .float (.finite false 1 1))]] ∨
        items = [] := by
      simpa [orderBody, Json.contains_obj_iff, Json.contains_arr_iff, Json.contains_atom_iff]
        using hitems
    rcases hcases with rfl | rfl
    · rw [hshape a ha, hshape b hb]
    · cases ha

theorem fingerprint_orderTwin : fingerprint (infer orderTwin) = fingerprint (infer orderBody) := by
  have hplain : IsPlain orderTwin := by
    intro s hs
    simp [orderTwin, Json.contains_obj_iff, Json.contains_arr_iff, Json.contains_atom_iff] at hs
  rw [fingerprint_eq_iff_skeleton, skeleton_eq_iff_bodyShape distinctKeys_orderTwin
    isUniform_orderBody.distinct hplain isUniform_orderBody.plain, orderTwin, orderBody,
    bodyShape_obj_eq_iff]
  intro k
  by_cases he : k = "example"
  · simp [Table.find, he, bodyShape, shapeOfFirst]
  · by_cases hi : k = "items"
    · simp [Table.find, hi, bodyShape, shapeOfFirst, shapesOf]
    · simp [Table.find, he, hi]

/-- Two bodies of the shape of `orderBody`. -/
def orderUsage : Table String Nat :=
  [(fingerprint (infer orderBody), 2)]

theorem admits_merged_orderBody :
    orderTwin.DistinctKeys ∧ IsUniform orderBody ∧
      fingerprint (infer orderTwin) = fingerprint (infer orderBody) ∧
      admits (infer orderTwin) orderBody = true ∧ admits (infer orderBody) orderBody = true ∧
      ∃ name component,
        ((Registry.extractAll { usage := orderUsage } [infer orderTwin]).extract
          (infer orderBody)).schema = componentRef name ∧
        Table.find name ((Registry.extractAll { usage := orderUsage } [infer orderTwin]).extract
          (infer orderBody)).registry.components = some component ∧
        admits component orderBody = true := by
  obtain ⟨hsame, hown, hmerged⟩ := admits_merged distinctKeys_orderTwin isUniform_orderBody
  refine ⟨distinctKeys_orderTwin, isUniform_orderBody, fingerprint_orderTwin,
    hsame fingerprint_orderTwin, hown, ?_⟩
  have hr := (Registry.isOrderly_ofUsage orderUsage).extractAll [infer orderTwin]
  rcases hr.sound.extract_schema (infer orderBody) with ⟨hstays, -⟩ | ⟨-, -, name, _, href, -⟩
  · -- the body has properties, and its shape is repeated
    rw [Registry.uses, hr.usage] at hstays
    simp [orderUsage, Table.find, orderBody, infer, inferFields, propertyNames, Json.get?] at hstays
  · obtain ⟨component, hfind, hadmits⟩ := hmerged orderUsage [orderTwin] [] name
      (by simpa using distinctKeys_orderTwin) href
    exact ⟨name, component, href, hfind, hadmits⟩

end Schema

end SequenceApi
