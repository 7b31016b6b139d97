import SequenceApi.Proofs.Schema.Fingerprint
import SequenceApi.Proofs.Table
import SequenceApi.Schema.Registry

/-!
# The registry of components

A service has one component for each fingerprint that has a name, and the component has that
fingerprint. New names are free, so a component is never replaced: what a reference means stays what
it was when the reference was placed.

## Main definitions

* `Registry.Sound`: names and components belong together
* `Registry.Extends`: the components that were there are still there
* `Registry.componentOf`: the component of a fingerprint
* `Registry.resolve`: the component that a reference means
* `Registry.Stands`: a schema, or a reference to a component of its shape
* `Registry.OfBodies`: a sound registry whose components are inferred

## Main results

* `Registry.has_freeName`: a new name is free
* `Registry.share_cases`: what becomes of a schema
* `Registry.Sound.share`, `Registry.Extends.share`: what sharing keeps
* `Registry.Sound.componentOf_share`: what sharing adds
* `Registry.stands_share`: what is placed stands for the schema
-/

namespace SequenceApi

namespace Registry

/-! ## Free names -/

theorem numbered_injective (base : String) :
    Function.Injective fun i : Nat => base ++ toString (i + 1) := by
  intro i j h
  have hdigits : Nat.toDigits 10 (i + 1) = Nat.toDigits 10 (j + 1) := by
    rw [← Nat.toList_repr, ← Nat.toList_repr]
    exact congrArg String.toList ((String.append_right_inj base).1 h)
  exact Nat.succ_injective (Decimal.eq_of_toDigits_eq hdigits)

/-- Some number is free: there are more numbers than components. -/
theorem exists_free_number (r : Registry) (base : String) :
    ∃ i, i < r.components.length + 1 ∧
      Table.has (base ++ toString (i + 1)) r.components = false := by
  by_contra hnone
  have htaken : ∀ i, i < r.components.length + 1 →
      Table.has (base ++ toString (i + 1)) r.components = true := by
    intro i hi
    by_contra hfree
    exact hnone ⟨i, hi, by simpa using hfree⟩
  -- one more name than there are components cannot all be taken
  have hsub : (List.range (r.components.length + 1)).map (fun i => base ++ toString (i + 1)) ⊆
      Table.keys r.components := by
    intro name hname
    obtain ⟨i, hi, rfl⟩ := List.mem_map.1 hname
    have hhas := htaken i (List.mem_range.1 hi)
    by_contra hnot
    rw [Table.has, Table.find_eq_none_iff.2 hnot] at hhas
    cases hhas
  have hnodup := (List.nodup_range (n := r.components.length + 1)).map (numbered_injective base)
  have hlength := hnodup.length_le_of_subset hsub
  simp [Table.keys] at hlength

/-- A new name is free. -/
theorem has_freeName (r : Registry) (base : String) :
    Table.has (r.freeName base) r.components = false := by
  simp only [freeName]
  split
  · cases h : List.find? (fun name => !Table.has name r.components)
        ((List.range (r.components.length + 1)).map fun i => base ++ toString (i + 1)) with
    | some name => simpa using List.find?_some h
    | none =>
      exfalso
      obtain ⟨i, hi, hfree⟩ := r.exists_free_number base
      rw [List.find?_eq_none] at h
      refine h _ (List.mem_map.2 ⟨i, List.mem_range.2 hi, rfl⟩) ?_
      rw [hfree, Bool.not_false]
  · next h => simpa using h

theorem find_freeName (r : Registry) (base : String) :
    Table.find (r.freeName base) r.components = none := by
  have h := has_freeName r base
  rwa [Table.has, Option.isSome_eq_false_iff, Option.isNone_iff_eq_none] at h

/-! ## What sharing does -/

section

variable (r : Registry) (base : String) (schema : Json)

/-- The registry with a schema as a new component. -/
def withComponent (name : String) : Registry :=
  { r with
    components := Table.put name schema r.components
    names := Table.put (Schema.fingerprint schema) name r.names }

/-- The schema stays, or a reference to the component of its fingerprint takes its place, and that
component is there or is new. -/
theorem share_cases :
    r.uses (Schema.fingerprint schema) ≤ 1 ∧ r.share base schema = ⟨schema, r, none⟩ ∨
    1 < r.uses (Schema.fingerprint schema) ∧
      (∃ name, Table.find (Schema.fingerprint schema) r.names = some name ∧
        r.share base schema = ⟨componentRef name, r, none⟩) ∨
    1 < r.uses (Schema.fingerprint schema) ∧
      Table.find (Schema.fingerprint schema) r.names = none ∧
      r.share base schema = ⟨componentRef (r.freeName base),
        r.withComponent schema (r.freeName base), some (r.freeName base)⟩ := by
  simp only [share]
  split
  · next h => exact .inl ⟨h, rfl⟩
  · next h =>
    have hlt := Nat.lt_of_not_le h
    split
    · next name hname => exact .inr (.inl ⟨hlt, name, hname, rfl⟩)
    · next hname => exact .inr (.inr ⟨hlt, hname, rfl⟩)

end

/-! ## Invariants -/

/-- Each named fingerprint has a component of this fingerprint under its name, and each component is
named by its fingerprint. -/
structure Sound (r : Registry) : Prop where
  component : ∀ {key name}, Table.find key r.names = some name →
    ∃ schema, Table.find name r.components = some schema ∧ Schema.fingerprint schema = key
  name : ∀ {name schema}, Table.find name r.components = some schema →
    Table.find (Schema.fingerprint schema) r.names = some name

/-- Components that were there are still there. -/
def Extends (r r' : Registry) : Prop :=
  ∀ name schema, Table.find name r.components = some schema →
    Table.find name r'.components = some schema

/-- What holds of all components. -/
def All (P : Json → Prop) (r : Registry) : Prop :=
  ∀ name schema, Table.find name r.components = some schema → P schema

section

variable {r : Registry} {base : String} {schema : Json}

theorem sound_ofUsage (usage : Table String Nat) : Sound { usage } :=
  ⟨by simp, by simp⟩

theorem Extends.refl (r : Registry) : r.Extends r :=
  fun _ _ hfind => hfind

theorem Extends.trans {r' r'' : Registry} (h : r.Extends r') (h' : r'.Extends r'') :
    r.Extends r'' :=
  fun name schema hfind => h' name schema (h name schema hfind)

theorem Extends.withComponent {name : String} (hname : Table.find name r.components = none)
    (schema : Json) : r.Extends (r.withComponent schema name) := by
  intro name' schema' hfind
  rw [Registry.withComponent, Table.find_put_of_ne, hfind]
  rintro rfl
  rw [hname] at hfind
  cases hfind

theorem Sound.withComponent (h : r.Sound) {name : String}
    (hname : Table.find name r.components = none)
    (hkey : Table.find (Schema.fingerprint schema) r.names = none) :
    (r.withComponent schema name).Sound := by
  -- Every other fingerprint keeps its component, and every other component its fingerprint.
  constructor
  · intro key name' hfind
    by_cases hk : key = Schema.fingerprint schema
    · subst hk
      simp only [Registry.withComponent, Table.find_put_self] at hfind ⊢
      obtain rfl := Option.some_inj.1 hfind
      exact ⟨schema, Table.find_put_self .., rfl⟩
    · simp only [Registry.withComponent, Table.find_put_of_ne hk] at hfind
      obtain ⟨schema', hfind', hkey'⟩ := h.component hfind
      exact ⟨schema', Extends.withComponent hname schema _ _ hfind', hkey'⟩
  · intro name' schema' hfind
    by_cases hn : name' = name
    · subst hn
      simp only [Registry.withComponent, Table.find_put_self] at hfind ⊢
      obtain rfl := Option.some_inj.1 hfind
      exact Table.find_put_self ..
    · simp only [Registry.withComponent, Table.find_put_of_ne hn] at hfind
      have hnames := h.name hfind
      rw [Registry.withComponent, Table.find_put_of_ne, hnames]
      intro heq
      rw [heq, hkey] at hnames
      cases hnames

theorem Sound.share (h : r.Sound) (base : String) (schema : Json) :
    (r.share base schema).registry.Sound := by
  rcases share_cases r base schema with ⟨-, hx⟩ | ⟨-, name, -, hx⟩ | ⟨-, hkey, hx⟩
  · rwa [hx]
  · rwa [hx]
  · rw [hx]
    exact h.withComponent (r.find_freeName base) hkey

theorem Extends.share (r : Registry) (base : String) (schema : Json) :
    r.Extends (r.share base schema).registry := by
  rcases share_cases r base schema with ⟨-, hx⟩ | ⟨-, name, -, hx⟩ | ⟨-, -, hx⟩
  · rw [hx]
    exact .refl r
  · rw [hx]
    exact .refl r
  · rw [hx]
    exact .withComponent (r.find_freeName base) schema

theorem All.share {P : Json → Prop} (h : All P r) (base : String) (hs : P schema) :
    All P (r.share base schema).registry := by
  rcases share_cases r base schema with ⟨-, hx⟩ | ⟨-, name, -, hx⟩ | ⟨-, -, hx⟩
  · rwa [hx]
  · rwa [hx]
  · rw [hx]
    intro name' schema' hfind
    by_cases hn : name' = r.freeName base
    · subst hn
      simp only [Registry.withComponent, Table.find_put_self] at hfind
      exact Option.some_inj.1 hfind ▸ hs
    · simp only [Registry.withComponent, Table.find_put_of_ne hn] at hfind
      exact h _ _ hfind

end

/-! ## The component of a fingerprint -/

/-- The component of a fingerprint, if it has one. -/
def componentOf (r : Registry) (key : String) : Option Json :=
  (Table.find key r.names).bind fun name => Table.find name r.components

section

variable {r : Registry} {name : String} {schema : Json}

theorem Sound.componentOf_of_find (h : r.Sound) (hfind : Table.find name r.components = some schema) :
    r.componentOf (Schema.fingerprint schema) = some schema := by
  rw [componentOf, h.name hfind, Option.bind_some, hfind]

theorem Sound.exists_find (h : r.Sound) {key : String} (hkey : r.componentOf key = some schema) :
    ∃ name, Table.find name r.components = some schema ∧ Schema.fingerprint schema = key := by
  obtain ⟨name, hname, hfind⟩ := Option.bind_eq_some_iff.1 hkey
  obtain ⟨schema', hfind', hkey'⟩ := h.component hname
  rw [hfind'] at hfind
  obtain rfl := Option.some_inj.1 hfind
  exact ⟨name, hfind', hkey'⟩

/-- No two components have one fingerprint. -/
theorem Sound.name_unique (h : r.Sound) {name' : String} {schema' : Json}
    (hfind : Table.find name r.components = some schema)
    (hfind' : Table.find name' r.components = some schema')
    (hkey : Schema.fingerprint schema' = Schema.fingerprint schema) : name' = name := by
  have hname := h.name hfind'
  rw [hkey, h.name hfind] at hname
  exact (Option.some_inj.1 hname).symm

/-- A new component is that of its own fingerprint, and changes nothing for the others. -/
theorem Sound.componentOf_withComponent (h : r.Sound)
    (hname : Table.find name r.components = none) (schema : Json) (key : String) :
    (r.withComponent schema name).componentOf key =
      if Schema.fingerprint schema = key then some schema else r.componentOf key := by
  split
  · next hkey =>
    rw [componentOf, Registry.withComponent, hkey, Table.find_put_self, Option.bind_some,
      Table.find_put_self]
  · next hkey =>
    rw [componentOf, componentOf, Registry.withComponent, Table.find_put_of_ne (Ne.symm hkey)]
    cases hold : Table.find key r.names with
    | none => rfl
    | some old =>
      -- the old component keeps its name
      obtain ⟨schema', hfind, -⟩ := h.component hold
      rw [Option.bind_some, Option.bind_some, hfind]
      exact Extends.withComponent hname schema _ _ hfind

/-- Sharing gives a component to a fingerprint that several bodies have, if it has none yet. -/
theorem Sound.componentOf_share (h : r.Sound) (base : String) (schema : Json) (key : String) :
    (r.share base schema).registry.componentOf key =
      (r.componentOf key).or
        (if Schema.fingerprint schema = key ∧ 1 < r.uses key then some schema else none) := by
  rcases share_cases r base schema with ⟨hrare, hx⟩ | ⟨huses, name, hname, hx⟩ | ⟨huses, hnone, hx⟩
  · rw [hx, if_neg, Option.or_none]
    rintro ⟨rfl, huses⟩
    exact Nat.not_lt.2 hrare huses
  · -- the fingerprint has its component already
    rw [hx]
    by_cases hkey : Schema.fingerprint schema = key
    · obtain ⟨schema', hfind, -⟩ := h.component hname
      rw [componentOf, ← hkey, hname, Option.bind_some, hfind, Option.some_or]
    · rw [if_neg fun hboth => hkey hboth.1, Option.or_none]
  · rw [hx, h.componentOf_withComponent (r.find_freeName base)]
    by_cases hkey : Schema.fingerprint schema = key
    · subst hkey
      rw [if_pos rfl, if_pos ⟨rfl, huses⟩, componentOf, hnone]
      rfl
    · rw [if_neg hkey, if_neg fun hboth => hkey hboth.1, Option.or_none]

theorem uses_share (r : Registry) (base : String) (schema : Json) (key : String) :
    (r.share base schema).registry.uses key = r.uses key := by
  rcases share_cases r base schema with ⟨-, hx⟩ | ⟨-, name, -, hx⟩ | ⟨-, -, hx⟩
  · rw [hx]
  · rw [hx]
  · rw [hx, withComponent, uses, uses]

theorem distinct_share (h : r.components.Distinct) (base : String) (schema : Json) :
    (r.share base schema).registry.components.Distinct := by
  rcases share_cases r base schema with ⟨-, hx⟩ | ⟨-, name, -, hx⟩ | ⟨-, -, hx⟩
  · rwa [hx]
  · rwa [hx]
  · rw [hx]
    exact h.put _ _

end

/-! ## References -/

open Json (Reordered)
open Schema (stripExamples IsInferred)

/-- The component that a reference means; every other value means itself. -/
def resolve (components : Table String Json) : Json → Json
  | .obj [("$ref", .str ref)] =>
    match components.find? fun e => componentPath ++ e.1 = ref with
    | some e => e.2
    | none => .obj [("$ref", .str ref)]
  | v => v

theorem find?_path (components : Table String Json) (name : String) :
    (components.find? fun e => componentPath ++ e.1 = componentPath ++ name).map Prod.snd =
      Table.find name components := by
  induction components with
  | nil => rfl
  | cons e components ih =>
    rw [List.find?_cons, Table.find]
    by_cases h : name = e.1
    · simp [h]
    · rw [if_neg h, ← ih]
      simp [String.append_right_inj, Ne.symm h]

theorem resolve_componentRef {components : Table String Json} {name : String} {schema : Json}
    (h : Table.find name components = some schema) :
    resolve components (componentRef name) = schema := by
  rw [← find?_path, Option.map_eq_some_iff] at h
  obtain ⟨e, he, rfl⟩ := h
  rw [componentRef, resolve, he]

/-- A schema, or a reference to a component of its shape. -/
inductive Stands (r : Registry) : Json → Json → Prop where
  | inline {s : Json} (h : ∀ ref, s ≠ .obj [("$ref", .str ref)]) : Stands r s s
  | component {name : String} {schema s : Json}
      (hfind : Table.find name r.components = some schema)
      (h : Reordered (stripExamples schema) (stripExamples s)) : Stands r (componentRef name) s

section

variable {r r' : Registry} {v s : Json}

theorem Stands.mono (h : Stands r v s) (hr : r.Extends r') : Stands r' v s := by
  cases h with
  | inline h => exact .inline h
  | component hfind h => exact .component (hr _ _ hfind) h

theorem resolve_eq_self (components : Table String Json)
    (h : ∀ ref, s ≠ .obj [("$ref", .str ref)]) : resolve components s = s := by
  rw [resolve]
  exact fun ref href => h ref href

/-- What a placed value means has the shape of the schema that it stands for. -/
theorem Stands.resolve (h : Stands r v s) :
    Reordered (stripExamples (resolve r.components v)) (stripExamples s) := by
  cases h with
  | inline h =>
    rw [resolve_eq_self _ h]
    exact .refl _
  | component hfind h =>
    rwa [resolve_componentRef hfind]

theorem stands_inferred (r : Registry) (hs : IsInferred s) : Stands r s s := by
  obtain ⟨type, fields, rfl⟩ := hs.eq_obj
  exact .inline (by simp)

/-- What is placed stands for the schema. -/
theorem stands_share (h : r.Sound) (hall : All IsInferred r) (base : String) (hs : IsInferred s) :
    Stands (r.share base s).registry (r.share base s).schema s := by
  rcases share_cases r base s with ⟨-, hx⟩ | ⟨-, name, hname, hx⟩ | ⟨-, -, hx⟩
  · rw [hx]
    exact stands_inferred r hs
  · -- the component has the fingerprint of the schema, and so its shape
    rw [hx]
    obtain ⟨schema, hfind, hkey⟩ := h.component hname
    exact .component hfind ((hall _ _ hfind).reordered hs hkey)
  · -- the component is the schema itself
    rw [hx]
    exact .component (Table.find_put_self ..) (.refl _)

end

/-! ## Schemas -/

/-- What the components of a service are: named by their fingerprints, and inferred from bodies. -/
structure OfBodies (r : Registry) : Prop where
  sound : r.Sound
  inferred : All IsInferred r

theorem ofBodies_ofUsage (usage : Table String Nat) : OfBodies { usage } :=
  ⟨sound_ofUsage usage, by simp [All]⟩

/-- A schema is placed, and the components stay what they are. -/
theorem OfBodies.extract {r : Registry} {s : Json} (h : r.OfBodies) (hs : IsInferred s) :
    (r.extract s).registry.OfBodies ∧ r.Extends (r.extract s).registry ∧
      Stands (r.extract s).registry (r.extract s).schema s := by
  rw [Registry.extract]
  split
  · exact ⟨h, .refl r, stands_inferred r hs⟩
  · exact ⟨⟨h.sound.share _ s, h.inferred.share _ hs⟩, .share r _ s,
      stands_share h.sound h.inferred _ hs⟩

/-- A registry that has counted nothing keeps no components. -/
theorem extract_of_usage_nil {r : Registry} (h : r.usage = []) (s : Json) :
    r.extract s = ⟨s, r, none⟩ := by
  rw [Registry.extract]
  split
  · rfl
  · rw [Registry.share]
    simp [uses, h]

end Registry

end SequenceApi
