import SequenceApi.Proofs.Json.Distinct
import SequenceApi.Proofs.Reference.Decoded
import SequenceApi.Proofs.Schema.Fingerprint

/-!
# References in inferred schemas

An inferred schema has no references of its own. A field that is called `$ref` becomes the name of
a property, and what stands under it is a schema and no text. But an array stays in its schema as an
example, as it is, and an object in it that looks like a reference is one for every reader of the
document. So a schema mentions a reference only if an array of the body holds an object with a text
under `$ref`.

## Main definitions

* `Json.HoldsRef`: an array inside holds what looks like a reference

## Main results

* `Node.Mentions.ofJson_arr`, `Node.Mentions.ofJson_obj`: what JSON values mention
* `Schema.holdsRef_of_mentions`: what an inferred schema mentions
-/

namespace SequenceApi

/-- An object with a text under the key of references. -/
def Json.LooksLikeRef (v : Json) : Prop :=
  ∃ ref, v.get? refKey = some (.str ref)

/-- An array inside the value has an object in it that looks like a reference. -/
def Json.HoldsRef (v : Json) : Prop :=
  ∃ items, v.Contains (.arr items) ∧
    ∃ item ∈ items, ∃ w, item.Contains w ∧ w.LooksLikeRef

theorem Json.HoldsRef.of_contains {v w : Json} (h : w.HoldsRef) (hw : v.Contains w) :
    v.HoldsRef := by
  obtain ⟨items, hitems, hitem⟩ := h
  exact ⟨items, hw.trans hitems, hitem⟩

namespace Node

/-! ## What JSON values mention -/

theorem ofItems_eq_map (items : List Json) : ofItems items = items.map ofJson := by
  induction items with
  | nil => rfl
  | cons v items ih => rw [ofItems, ih, List.map_cons]

theorem ofFields_eq_map (fields : List (String × Json)) :
    ofFields fields = fields.map fun e => (.str e.1, ofJson e.2) := by
  induction fields with
  | nil => rfl
  | cons e fields ih => rw [ofFields, ih, List.map_cons]

theorem str?_ofJson (v : Json) : (ofJson v).str? = v.str? := by
  cases v <;> rfl

theorem ref?_ofJson (v : Json) : (ofJson v).ref? = (v.get? refKey).bind Json.str? := by
  cases v with
  | obj fields =>
    rw [ofJson, ref?, refOf?, find_ofFields, Option.bind_map, Json.get?]
    congr 1
    funext w
    exact str?_ofJson w
  | _ => rfl

theorem looksLikeRef_of_ref? {v : Json} {ref : String} (h : (ofJson v).ref? = some ref) :
    v.LooksLikeRef := by
  rw [ref?_ofJson] at h
  obtain ⟨w, hw, hs⟩ := Option.bind_eq_some_iff.1 h
  cases w <;> cases hs
  exact ⟨ref, hw⟩

section

variable {ref : String}

theorem Mentions.ofJson_arr {items : List Json} (h : (ofJson (.arr items)).Mentions ref) :
    ∃ v ∈ items, (ofJson v).Mentions ref := by
  cases h with
  | here h => cases h
  | part _ hp h =>
    rw [ofJson, parts, ofItems_eq_map] at hp
    obtain ⟨v, hv, rfl⟩ := List.mem_map.1 hp
    exact ⟨v, hv, h⟩

theorem Mentions.ofJson_obj {fields : List (String × Json)}
    (h : (ofJson (.obj fields)).Mentions ref) :
    Json.LooksLikeRef (.obj fields) ∨ ∃ e ∈ fields, (ofJson e.2).Mentions ref := by
  cases h with
  | here h => exact .inl (looksLikeRef_of_ref? h)
  | part _ hp h =>
    rw [ofJson, parts, ofFields_eq_map, List.map_map] at hp
    obtain ⟨e, he, rfl⟩ := List.mem_map.1 hp
    exact .inr ⟨e, he, h⟩

/-- An object without the key of references mentions what its fields mention. -/
theorem Mentions.ofJson_fields {fields : List (String × Json)}
    (h : (ofJson (.obj fields)).Mentions ref) (hkey : Table.find refKey fields = none) :
    ∃ e ∈ fields, (ofJson e.2).Mentions ref := by
  rcases h.ofJson_obj with ⟨ref', hlooks⟩ | hfield
  · rw [Json.get?, hkey] at hlooks
    cases hlooks
  · exact hfield

/-- A value without parts mentions nothing. -/
theorem not_mentions_atom {v : Json} (harr : ∀ items, v ≠ .arr items)
    (hobj : ∀ fields, v ≠ .obj fields) : ¬(ofJson v).Mentions ref := by
  cases v with
  | arr items => exact absurd rfl (harr items)
  | obj fields => exact absurd rfl (hobj fields)
  | _ =>
    intro h
    cases h with
    | here h => cases h
    | part _ hp _ => cases hp

theorem not_mentions_str (s : String) : ¬(ofJson (.str s)).Mentions ref :=
  not_mentions_atom (by simp) (by simp)

theorem not_mentions_strs (l : List String) : ¬(ofJson (Json.strs l)).Mentions ref := by
  intro h
  obtain ⟨v, hv, hm⟩ := h.ofJson_arr
  obtain ⟨s, -, rfl⟩ := List.mem_map.1 hv
  exact not_mentions_str s hm

/-- An object of fields that mention nothing. -/
theorem not_mentions_obj {fields : List (String × Json)}
    (h : ∀ e ∈ fields, e.1 ≠ refKey ∧ ¬(ofJson e.2).Mentions ref) :
    ¬(ofJson (.obj fields)).Mentions ref := by
  intro hm
  have hkey : Table.find refKey fields = none := by
    rw [Table.find_eq_none_iff]
    intro hmem
    obtain ⟨e, he, hk⟩ := List.mem_map.1 hmem
    exact (h e he).1 hk
  obtain ⟨e, he, hm⟩ := hm.ofJson_fields hkey
  exact (h e he).2 hm

/-- What a value mentions is inside it. -/
theorem Mentions.exists_looksLikeRef {v : Json} (h : (ofJson v).Mentions ref) :
    ∃ w, v.Contains w ∧ w.LooksLikeRef := by
  induction v using Json.induction with
  | arr items ih =>
    obtain ⟨v, hv, hm⟩ := h.ofJson_arr
    obtain ⟨w, hw, hlooks⟩ := ih v hv hm
    exact ⟨w, .item hv hw, hlooks⟩
  | obj fields ih =>
    rcases h.ofJson_obj with hlooks | ⟨e, he, hm⟩
    · exact ⟨_, .self _, hlooks⟩
    · obtain ⟨w, hw, hlooks⟩ := ih e he hm
      exact ⟨w, .field he hw, hlooks⟩
  | _ => exact absurd h (not_mentions_atom (by simp) (by simp))

end

end Node

/-! ## What inferred schemas mention -/

/-- The schema of a rule has texts and numbers, and none of them stands under the key of
references. -/
theorem Rule.field_toSchema {r : Rule} {fields : List (String × Json)}
    (h : r.toSchema = .obj fields) {e : String × Json} (he : e ∈ fields) :
    e.1 ≠ refKey ∧ ((∃ s, e.2 = .str s) ∨ ∃ b : Bound, e.2 = b.toJson) := by
  have hlow : (boundKeys r.type).1 ≠ refKey := by cases r.type <;> decide
  have hhigh : (boundKeys r.type).2 ≠ refKey := by cases r.type <;> decide
  obtain rfl := Json.obj.inj h
  obtain ⟨⟨k, v⟩, hf, hv⟩ := List.mem_filterMap.1 he
  obtain ⟨w, rfl, rfl⟩ := Option.map_eq_some_iff.1 hv
  simp only [List.mem_cons, List.not_mem_nil, or_false, Prod.mk.injEq] at hf
  rcases hf with ⟨rfl, hw⟩ | ⟨rfl, hw⟩ | ⟨rfl, hw⟩ | ⟨rfl, hw⟩ | ⟨rfl, hw⟩
  · exact ⟨by simp [refKey], .inl ⟨_, Option.some_inj.1 hw⟩⟩
  · obtain ⟨s, -, rfl⟩ := Option.map_eq_some_iff.1 hw.symm
    exact ⟨by simp [refKey], .inl ⟨s, rfl⟩⟩
  · obtain ⟨b, -, rfl⟩ := Option.map_eq_some_iff.1 hw.symm
    exact ⟨hlow, .inr ⟨b, rfl⟩⟩
  · obtain ⟨b, -, rfl⟩ := Option.map_eq_some_iff.1 hw.symm
    exact ⟨hhigh, .inr ⟨b, rfl⟩⟩
  · obtain ⟨s, -, rfl⟩ := Option.map_eq_some_iff.1 hw.symm
    exact ⟨by simp [refKey], .inl ⟨s, rfl⟩⟩

namespace Schema

section

variable {ref : String}

theorem not_mentions_rule (r : Rule) : ¬(Node.ofJson r.toSchema).Mentions ref := by
  refine Node.not_mentions_obj fun e he => ?_
  obtain ⟨hkey, ⟨s, hs⟩ | ⟨b, hb⟩⟩ := Rule.field_toSchema rfl he
  · exact ⟨hkey, hs ▸ Node.not_mentions_str s⟩
  · refine ⟨hkey, ?_⟩
    rw [hb]
    cases b <;> exact Node.not_mentions_atom (by simp [Bound.toJson]) (by simp [Bound.toJson])

theorem not_mentions_bare (type : SchemaType) : ¬(Node.ofJson (bare type)).Mentions ref := by
  apply Node.not_mentions_obj
  intro e he
  obtain rfl := List.mem_singleton.1 he
  exact ⟨by simp [refKey], Node.not_mentions_str _⟩

theorem not_mentions_typed (type : SchemaType) {v : Json} (harr : ∀ items, v ≠ .arr items)
    (hobj : ∀ fields, v ≠ .obj fields) : ¬(Node.ofJson (typed type v)).Mentions ref := by
  apply Node.not_mentions_obj
  intro e he
  rcases List.mem_pair.1 he with rfl | rfl
  · exact ⟨by simp [refKey], Node.not_mentions_str _⟩
  · exact ⟨by simp [refKey], Node.not_mentions_atom harr hobj⟩

theorem not_mentions_ofString (s : String) : ¬(Node.ofJson (ofString s)).Mentions ref := by
  rw [ofString]
  split
  · next r _ => exact not_mentions_rule r
  · exact not_mentions_typed .string (by simp) (by simp)

/-- What looks like a reference in a body becomes a property of a schema, unless it is in an
array. -/
theorem holdsRef_of_mentions {v : Json} (h : (Node.ofJson (infer v)).Mentions ref) :
    v.HoldsRef := by
  induction v using Json.induction with
  | null => exact absurd h (not_mentions_bare _)
  | bool b => exact absurd h (not_mentions_typed _ (by simp) (by simp))
  | int n => exact absurd h (not_mentions_typed _ (by simp) (by simp))
  | float x => exact absurd h (not_mentions_typed _ (by simp) (by simp))
  | str s => exact absurd h (not_mentions_ofString s)
  | arr items ih =>
    obtain ⟨e, he, hm⟩ := h.ofJson_fields (by simp [Table.find, refKey])
    simp only [List.mem_cons, List.not_mem_nil, or_false] at he
    rcases he with rfl | rfl | rfl
    · exact absurd hm (Node.not_mentions_str _)
    · -- the schema of the first item
      cases items with
      | nil => exact absurd hm (not_mentions_bare _)
      | cons v items =>
        exact (ih v List.mem_cons_self hm).of_contains (.item List.mem_cons_self (.self v))
    · -- the example: all items as they are
      obtain ⟨v, hv, hm⟩ := hm.ofJson_arr
      obtain ⟨w, hw, hlooks⟩ := hm.exists_looksLikeRef
      exact ⟨items, .self _, v, hv, w, hw, hlooks⟩
  | obj fields ih =>
    have hproperties (hm : (Node.ofJson (.obj (inferFields fields))).Mentions ref) :
        Json.HoldsRef (.obj fields) := by
      rw [inferFields_eq_map] at hm
      rcases hm.ofJson_obj with ⟨ref', hlooks⟩ | ⟨e, he, hm⟩
      · -- a property is called like the key of references, but its schema is no text
        rw [Json.get?, Table.find_map infer, Option.map_eq_some_iff] at hlooks
        obtain ⟨v, -, hv⟩ := hlooks
        obtain ⟨type, rest, hschema⟩ := IsInferred.eq_obj ⟨v, rfl⟩
        rw [hschema] at hv
        cases hv
      · obtain ⟨f, hf, rfl⟩ := List.mem_map.1 he
        exact (ih f hf hm).of_contains (.field hf (.self _))
    simp only [infer] at h
    obtain ⟨e, he, hm⟩ := h.ofJson_fields (by split <;> simp [Table.find, refKey])
    rcases List.mem_append.1 he with he | he
    · rcases List.mem_pair.1 he with rfl | rfl
      · exact absurd hm (Node.not_mentions_str _)
      · exact hproperties hm
    · split at he
      · cases he
      · obtain rfl := List.mem_singleton.1 he
        exact absurd hm (Node.not_mentions_strs _)

end

end Schema

end SequenceApi
