import SequenceApi.Proofs.Schema.Instance
import SequenceApi.Proofs.Schema.KeyOrder
import SequenceApi.Proofs.Schema.Rule

/-!
# Schemas mirror values

An inferred schema has the structure of its value. The schemas in it stand at places that are
reached through properties and through the items of arrays, and what stands at a place is the schema
of the value at the corresponding place of the body: of the field under the key, or of the first
item of the array. Only an empty array has no value there, and its items have the schema of a text.

An object lists the keys that its rules require. A rule requires the field under which it stands,
and so a rule in an array requires nothing.

## Main definitions

* `Json.RequiresField`: the value is a rule that requires its field
* `Schema.schemaAt?`: the schema at the end of a path
* `Schema.Mirrors`: the schema has the structure of the value

## Main results

* `Schema.isRequired_iff`: required fields are read off the parts of rules
* `Schema.mirrors_infer`: a schema has the structure of its value
* `Schema.schemaAt?_infer_of_valueAt?`, `Schema.schemaAt?_infer_cases`: the schemas in a schema
* `Schema.infer_mirrors`: the schemas in a schema have the structure of the values in the value
-/

namespace SequenceApi

open Schema

theorem Json.DistinctKeys.valueAt? {v w : Json} {path : List PathStep} (hv : v.DistinctKeys)
    (h : v.valueAt? path = some w) : w.DistinctKeys := by
  induction path generalizing v with
  | nil => exact Option.some.inj h ▸ hv
  | cons step path ih =>
    obtain ⟨u, hu, hw⟩ := Option.bind_eq_some_iff.1 h
    exact ih (hv.below? hu) hw

/-! ## Required fields -/

/-- The value is a rule, and one of its parts requires the field. -/
def Json.RequiresField (v : Json) : Prop :=
  ∃ s, v = .str s ∧ (∃ r, Rule.read? s = some r) ∧ Rule.requiredPart ∈ Rule.parts s

namespace Rule

theorem required_apply (r : Rule) (part : List Char) :
    (r.apply part).required = true ↔ part = requiredPart ∨ r.required = true := by
  by_cases hpart : part = requiredPart
  · simp [apply, hpart]
  · -- the other parts leave the flag as it is
    have hsame : (r.apply part).required = r.required := by
      rw [apply, if_neg hpart]
      split
      · rfl
      · repeat' split
        all_goals rfl
    simp [hpart, hsame]

theorem required_foldl_apply (parts : List (List Char)) :
    ∀ r : Rule, (parts.foldl apply r).required = true ↔
      r.required = true ∨ requiredPart ∈ parts := by
  -- Induction on the parts, for every rule that the parts before them have made.
  induction parts with
  | nil => simp
  | cons part parts ih =>
    intro r
    rw [List.foldl_cons, ih, required_apply, List.mem_cons, or_comm (a := part = requiredPart),
      or_assoc, eq_comm (a := part)]

/-- A rule that is read requires its field just if a part of it says so. -/
theorem required_of_read? {s : String} {r : Rule} (h : read? s = some r) :
    r.required = true ↔ requiredPart ∈ parts s := by
  rw [read?] at h
  split at h
  · next type _ =>
    obtain rfl := Option.some.inj h
    simpa using required_foldl_apply (parts s) { type }
  · split at h
    · obtain rfl := Option.some.inj h
      simpa using required_foldl_apply (parts s) {}
    · cases h

end Rule

namespace Schema

theorem isRequired_iff (v : Json) : isRequired v = true ↔ v.RequiresField := by
  cases v with
  | str s =>
    rw [isRequired, Option.any_eq_true]
    constructor
    · rintro ⟨r, hr, hrequired⟩
      exact ⟨s, rfl, ⟨r, hr⟩, (Rule.required_of_read? hr).1 hrequired⟩
    · rintro ⟨t, ht, ⟨r, hr⟩, hpart⟩
      obtain rfl := Json.str.inj ht
      exact ⟨r, hr, (Rule.required_of_read? hr).2 hpart⟩
  | _ => simp [isRequired, Json.RequiresField]

/-- The keys are those of the fields that are required, in their order and each of them once. -/
structure IsRequiredList (fields : List (String × Json)) (ks : List String) : Prop where
  sublist : ks.Sublist (Table.keys fields)
  nodup : ks.Nodup
  mem_iff : ∀ e ∈ fields, e.1 ∈ ks ↔ e.2.RequiresField

theorem isRequiredList_requiredKeys {fields : List (String × Json)} (hd : Table.Distinct fields) :
    IsRequiredList fields (requiredKeys fields) where
  sublist := List.filter_sublist.map Prod.fst
  nodup := List.Nodup.sublist (List.filter_sublist.map Prod.fst) hd
  mem_iff := by
    intro e he
    rw [requiredKeys, List.mem_map]
    constructor
    · rintro ⟨f, hf, hkey⟩
      obtain ⟨hf, hrequired⟩ := List.mem_filter.1 hf
      -- no other field has the key
      have hvalue : some f.2 = some e.2 := by
        rw [← hd.find_of_mem hf, ← hd.find_of_mem he, hkey]
      rw [← isRequired_iff, ← Option.some.inj hvalue]
      exact hrequired
    · intro h
      exact ⟨e, List.mem_filter.2 ⟨he, (isRequired_iff e.2).2 h⟩, rfl⟩

/-! ## The structure of a schema -/

/-- The schema of an object: a property for each key, in order, with the schema of its value, and
the list of the required keys, if there are any. -/
structure MirrorsObject (fields : List (String × Json)) (schema : Json) : Prop where
  type : schema.get? "type" = some (.str SchemaType.object.name)
  properties : schema.get? "properties" = some (.obj (fields.map fun e => (e.1, infer e.2)))
  required : ∃ ks, IsRequiredList fields ks ∧
    schema.get? "required" = if ks = [] then none else some (Json.strs ks)
  items : schema.get? "items" = none

/-- The schema of an array: the array itself as the example, and the schema of its first item for
all items, or that of a text if there is none. -/
structure MirrorsArray (items : List Json) (schema : Json) : Prop where
  type : schema.get? "type" = some (.str SchemaType.array.name)
  sample : schema.get? "example" = some (.arr items)
  items : schema.get? "items" = some (items.head?.elim (bare .string) infer)
  properties : schema.get? "properties" = none
  required : schema.get? "required" = none

/-- A schema in which no others stand. -/
structure IsLeaf (schema : Json) : Prop where
  type : ∃ type : SchemaType, schema.get? "type" = some (.str type.name)
  properties : schema.get? "properties" = none
  items : schema.get? "items" = none
  required : schema.get? "required" = none

/-- The schema has the structure of the value. -/
def Mirrors : Json → Json → Prop
  | .obj fields, schema => MirrorsObject fields schema
  | .arr items, schema => MirrorsArray items schema
  | _, schema => IsLeaf schema

theorem isLeaf_bare (type : SchemaType) : IsLeaf (bare type) where
  type := ⟨type, by simp [bare, Json.get?, Table.find]⟩
  properties := by simp [bare, Json.get?, Table.find]
  items := by simp [bare, Json.get?, Table.find]
  required := by simp [bare, Json.get?, Table.find]

theorem isLeaf_typed (type : SchemaType) (v : Json) : IsLeaf (typed type v) where
  type := ⟨type, by simp [typed, Json.get?, Table.find]⟩
  properties := by simp [typed, Json.get?, Table.find]
  items := by simp [typed, Json.get?, Table.find]
  required := by simp [typed, Json.get?, Table.find]

/-- A rule declares a type, a format, bounds and an example, even if the type is one of
containers. -/
theorem isLeaf_toSchema (r : Rule) : IsLeaf r.toSchema := by
  have hnone {k : String} (hk : k ∉ Table.keys r.schemaFields) : r.toSchema.get? k = none := by
    rw [Rule.get?_toSchema, Table.find_eq_none_iff.2 hk]
    rfl
  constructor
  case type =>
    refine ⟨r.type, ?_⟩
    rw [Rule.get?_toSchema]
    simp [Rule.schemaFields, Table.find]
  all_goals
    apply hnone
    rw [Rule.schemaFields]
    cases r.type <;> simp [Rule.boundKeys]

theorem isLeaf_ofString (s : String) : IsLeaf (ofString s) := by
  rw [ofString]
  split
  · next rule _ => exact isLeaf_toSchema rule
  · exact isLeaf_typed .string _

theorem mirrorsArray_infer (items : List Json) : MirrorsArray items (infer (.arr items)) where
  type := by simp [infer, Json.get?, Table.find]
  sample := by simp [infer, Json.get?, Table.find]
  items := by cases items <;> simp [infer, inferFirst, Json.get?, Table.find]
  properties := by simp [infer, Json.get?, Table.find]
  required := by simp [infer, Json.get?, Table.find]

theorem items_infer_obj (fields : List (String × Json)) :
    (infer (.obj fields)).get? "items" = none := by
  cases hkeys : requiredKeys fields <;> simp [infer, hkeys, Json.get?, Table.find]

theorem mirrorsObject_infer {fields : List (String × Json)} (hd : Table.Distinct fields) :
    MirrorsObject fields (infer (.obj fields)) where
  type := by simp [infer, Json.get?, Table.find]
  properties := by simp [infer, inferFields_eq_map, Json.get?, Table.find]
  required := by
    refine ⟨requiredKeys fields, isRequiredList_requiredKeys hd, ?_⟩
    cases hkeys : requiredKeys fields <;> simp [infer, hkeys, Json.get?, Table.find]
  items := items_infer_obj fields

/-- A schema has the structure of its value. -/
theorem mirrors_infer {v : Json} (hv : v.DistinctKeys) : Mirrors v (infer v) := by
  cases v with
  | null => exact isLeaf_bare .string
  | bool b => exact isLeaf_typed .boolean _
  | int n => exact isLeaf_typed .integer _
  | float x => exact isLeaf_typed _ _
  | str s => exact isLeaf_ofString s
  | arr items => exact mirrorsArray_infer items
  | obj fields => exact mirrorsObject_infer hv.distinct

theorem Mirrors.typed {v s : Json} (h : Mirrors v s) :
    ∃ type : SchemaType, s.get? "type" = some (.str type.name) := by
  cases v with
  | obj fields => exact ⟨.object, MirrorsObject.type h⟩
  | arr items => exact ⟨.array, MirrorsArray.type h⟩
  | _ => exact IsLeaf.type h

/-! ## The schemas in a schema -/

/-- The schema after one step into a schema: that of a property, or that of the items. -/
def subschema? : PathStep → Json → Option Json
  | .field k, schema => property? schema k
  | .first, schema => schema.get? "items"

/-- The schema at the end of a path. -/
def schemaAt? : List PathStep → Json → Option Json
  | [], schema => some schema
  | s :: path, schema => (subschema? s schema).bind (schemaAt? path)

theorem IsLeaf.subschema? {schema : Json} (h : IsLeaf schema) (s : PathStep) :
    subschema? s schema = none := by
  cases s with
  | field k => rw [Schema.subschema?, property?, h.properties, Option.bind_none]
  | first => exact h.items

section

variable {v w s : Json}

/-- A schema without others in it stands at the end of the empty path alone. -/
theorem IsLeaf.schemaAt? (h : IsLeaf s) {path : List PathStep} {t : Json}
    (ht : schemaAt? path s = some t) : path = [] ∧ t = s := by
  cases path with
  | nil => exact ⟨rfl, (Option.some.inj ht).symm⟩
  | cons step path =>
    rw [Schema.schemaAt?, h.subschema?] at ht
    cases ht

theorem subschema?_infer_arr (items : List Json) :
    subschema? .first (infer (.arr items)) = some (items.head?.elim (bare .string) infer) :=
  (mirrorsArray_infer items).items

/-- After one step there is the schema of the value that is there after one step. -/
theorem subschema?_infer_of_below? {step : PathStep} (h : v.below? step = some w) :
    subschema? step (infer v) = some (infer w) := by
  cases v with
  | obj fields =>
    cases step with
    | field k =>
      have hfind : Table.find k fields = some w := h
      rw [subschema?, property?_infer, hfind, Option.map_some]
    | first => cases h
  | arr items =>
    cases step with
    | field k => cases h
    | first =>
      have hhead : items.head? = some w := h
      rw [subschema?_infer_arr, hhead, Option.elim_some]
  | _ => cases step <;> cases h

/-- Where there is no value, only the items of an empty array have a schema. -/
theorem subschema?_infer_of_none {step : PathStep} (hv : v.below? step = none)
    (hs : subschema? step (infer v) = some s) : v = .arr [] ∧ step = .first ∧ s = bare .string := by
  have hleaf {t : Json} (ht : IsLeaf t) : subschema? step t ≠ some s := by
    rw [ht.subschema?]
    exact nofun
  -- atoms have leaves, objects have properties alone, and arrays have items alone
  cases v with
  | null => exact absurd hs (hleaf (isLeaf_bare .string))
  | bool b => exact absurd hs (hleaf (isLeaf_typed .boolean _))
  | int n => exact absurd hs (hleaf (isLeaf_typed .integer _))
  | float x => exact absurd hs (hleaf (isLeaf_typed _ _))
  | str t => exact absurd hs (hleaf (isLeaf_ofString t))
  | obj fields =>
    cases step with
    | field k =>
      have hfind : Table.find k fields = none := hv
      rw [subschema?, property?_infer, hfind] at hs
      cases hs
    | first =>
      have hitems : (infer (.obj fields)).get? "items" = some s := hs
      rw [items_infer_obj] at hitems
      cases hitems
  | arr items =>
    cases step with
    | field k =>
      rw [subschema?, property?, (mirrorsArray_infer items).properties] at hs
      cases hs
    | first =>
      have hhead : items.head? = none := hv
      rw [subschema?_infer_arr, hhead] at hs
      exact ⟨congrArg Json.arr (List.head?_eq_none_iff.1 hhead), rfl, (Option.some.inj hs).symm⟩

/-- At the end of a path there is the schema of the value that is there. -/
theorem schemaAt?_infer_of_valueAt? {path : List PathStep} (h : v.valueAt? path = some w) :
    schemaAt? path (infer v) = some (infer w) := by
  -- Induction on the path: one step in the value is one step in its schema.
  induction path generalizing v with
  | nil =>
    obtain rfl := Option.some.inj h
    rfl
  | cons step path ih =>
    obtain ⟨u, hu, hw⟩ := Option.bind_eq_some_iff.1 h
    rw [schemaAt?, subschema?_infer_of_below? hu]
    exact ih hw

/-- What there is at the end of a path is the schema of the value there, or stands for the items of
an empty array. -/
theorem schemaAt?_infer_cases {path : List PathStep} (h : schemaAt? path (infer v) = some s) :
    (∃ w, v.valueAt? path = some w ∧ s = infer w) ∨
      ∃ outer, path = outer ++ [.first] ∧ v.valueAt? outer = some (.arr []) ∧ s = bare .string := by
  -- Induction on the path: as long as the value has a part for the step, both go on below it.
  induction path generalizing v with
  | nil => exact .inl ⟨v, rfl, (Option.some.inj h).symm⟩
  | cons step path ih =>
    obtain ⟨t, ht, hs⟩ := Option.bind_eq_some_iff.1 h
    cases hbelow : v.below? step with
    | some u =>
      obtain rfl : infer u = t := by
        rw [subschema?_infer_of_below? hbelow] at ht
        exact Option.some.inj ht
      rw [Json.valueAt?, hbelow, Option.bind_some]
      rcases ih hs with hvalue | ⟨outer, rfl, houter, hs⟩
      · exact .inl hvalue
      · refine .inr ⟨step :: outer, rfl, ?_, hs⟩
        rw [Json.valueAt?, hbelow, Option.bind_some, houter]
    | none =>
      obtain ⟨rfl, rfl, rfl⟩ := subschema?_infer_of_none hbelow ht
      obtain ⟨rfl, rfl⟩ := (isLeaf_bare .string).schemaAt? hs
      exact .inr ⟨[], rfl, rfl, rfl⟩

/-- An inferred schema mirrors its value: the schemas in it are those of the values at the same
places, and each has the structure of its value. A body that does not nest too deep has a schema. -/
theorem infer_mirrors (hv : v.DistinctKeys) :
    (v.depth ≤ deepestBody → ofBody? v = some (infer v)) ∧
      (∀ path w, v.valueAt? path = some w → schemaAt? path (infer v) = some (infer w)) ∧
      ∀ path s, schemaAt? path (infer v) = some s →
        (∃ type : SchemaType, s.get? "type" = some (.str type.name)) ∧
          ((∃ w, v.valueAt? path = some w ∧ s = infer w ∧ Mirrors w s) ∨
            ∃ outer, path = outer ++ [.first] ∧ v.valueAt? outer = some (.arr []) ∧
              s = bare .string ∧ IsLeaf s) := by
  refine ⟨fun hdepth => if_pos hdepth, fun path w h => schemaAt?_infer_of_valueAt? h, ?_⟩
  intro path s hs
  rcases schemaAt?_infer_cases hs with ⟨w, hw, rfl⟩ | ⟨outer, rfl, houter, rfl⟩
  · have hmirrors := mirrors_infer (hv.valueAt? hw)
    exact ⟨hmirrors.typed, .inl ⟨w, hw, rfl, hmirrors⟩⟩
  · have hleaf := isLeaf_bare .string
    exact ⟨hleaf.type, .inr ⟨outer, rfl, houter, rfl, hleaf⟩⟩

/-- A body with rules in an object, in an array and in an object in an array, and with an empty
array. -/
def ruledBody : Json :=
  .obj [("id", .str "integer, required"), ("tags", .arr [.str "string, required"]),
    ("rows", .arr [.obj [("name", .str "required"), ("note", .null)]]), ("rest", .arr [])]

theorem infer_mirrors_ruledBody :
    ruledBody.DistinctKeys ∧ ofBody? ruledBody = some (infer ruledBody) ∧
      (∃ s, schemaAt? [.field "rows", .first] (infer ruledBody) = some s ∧
        Mirrors (.obj [("name", .str "required"), ("note", .null)]) s) ∧
      schemaAt? [.field "rest", .first] (infer ruledBody) = some (bare .string) := by
  have hd : ruledBody.DistinctKeys := by
    simp [ruledBody, Json.distinctKeys_obj_iff, Json.distinctKeys_arr_iff, Json.distinctKeys_atom,
      Table.Distinct]
  obtain ⟨hbody, hvalues, hschemas⟩ := infer_mirrors hd
  have hrows := hvalues [.field "rows", .first] (.obj [("name", .str "required"), ("note", .null)])
    rfl
  refine ⟨hd, hbody (by decide), ⟨_, hrows, ?_⟩, rfl⟩
  obtain ⟨-, ⟨w, hw, -, hmirrors⟩ | ⟨outer, hpath, houter, -⟩⟩ := hschemas _ _ hrows
  · obtain rfl := Option.some.inj hw
    exact hmirrors
  · -- the array of rows is not empty
    obtain rfl : [PathStep.field "rows"] = outer := List.append_cancel_right hpath
    cases houter

end

end Schema

end SequenceApi
