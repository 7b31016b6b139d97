import SequenceApi.Proofs.Schema.Registry

/-!
# Registration of components

A registry can meet any schemas in any order, counted in any way. Names are made from three
properties at most and from what of them may stand in a name, so schemas of different shapes ask for
one name; numbers behind the name keep them apart, and one of the numbers is always free. So the
names of components and the fingerprints with a component stay in one-to-one correspondence, and what
has been registered is never registered otherwise.

## Main definitions

* `IsComponentName`: a text of the characters that component names may have
* `Registry.IsSchema`: an object whose properties, if there are any, are an object
* `Registry.extractAll`, `Registry.extractAll?`: schemas or any values, extracted one after another
* `Registry.IsPaired`: names and fingerprints in one-to-one correspondence
* `Registry.Registers`: what one call does among others

## Main results

* `Registry.exists_freeName_eq`: the numbered name that is taken is the first that is free
* `Registry.IsOrderly.extractAll`: what all calls keep
* `Registry.exists_registers`: every call of every sequence
-/

namespace SequenceApi

/-! ## Names -/

/-- A text of the characters that component names may have. -/
def IsComponentName (name : String) : Prop :=
  ∀ c ∈ name.toList, isComponentChar c = true

/-- A letter stays a letter as a capital, and nothing else changes. -/
theorem isComponentChar_toUpper {c : Char} (h : isComponentChar c = true) :
    isComponentChar c.toUpper = true := by
  -- the characters of names are ASCII, so they can be gone through
  have hascii : ∀ n < 128, isComponentChar (Char.ofNat n) = true →
      isComponentChar (Char.ofNat n).toUpper = true := by decide
  have hsmall : c.toNat < 128 := by
    simp only [isComponentChar, Bool.or_eq_true, Bool.and_eq_true, decide_eq_true_eq,
      beq_iff_eq] at h
    rcases h with ((⟨-, hc⟩ | ⟨-, hc⟩) | ⟨-, hc⟩) | rfl
    · exact Nat.lt_of_le_of_lt hc (by decide)
    · exact Nat.lt_of_le_of_lt hc (by decide)
    · exact Nat.lt_of_le_of_lt hc (by decide)
    · decide
  have hc := hascii c.toNat hsmall
  rw [Char.ofNat_toNat] at hc
  exact hc h

theorem isComponentChar_of_isDigit {c : Char} (h : c.isDigit = true) :
    isComponentChar c = true := by
  have hdigit : '0' ≤ c ∧ c ≤ '9' := by simpa [Char.isDigit, Char.le_def] using h
  simp [isComponentChar, hdigit]

theorem isComponentChar_of_mem_namePart {property : String} {c : Char}
    (h : c ∈ namePart property) : isComponentChar c = true := by
  have hkept : ∀ d ∈ property.toList.filter isComponentChar, isComponentChar d = true :=
    fun d hd => (List.mem_filter.1 hd).2
  unfold namePart at h
  split at h
  · cases h
  · next d ds hfilter =>
    rw [hfilter] at hkept
    obtain ⟨hd, hds⟩ := List.forall_mem_cons.1 hkept
    rcases List.mem_cons.1 h with rfl | h
    · exact isComponentChar_toUpper hd
    · exact hds c h

theorem IsComponentName.append {s t : String} (hs : IsComponentName s) (ht : IsComponentName t) :
    IsComponentName (s ++ t) := by
  intro c hc
  rw [String.toList_append] at hc
  rcases List.mem_append.1 hc with hc | hc
  · exact hs c hc
  · exact ht c hc

/-- Whatever the properties are called, the name that is made from them is one. -/
theorem isComponentName_componentNameOf (names : List String) :
    IsComponentName (componentNameOf names) := by
  apply IsComponentName.append
  · intro c hc
    rw [String.toList_ofList] at hc
    obtain ⟨property, -, hc⟩ := List.mem_flatMap.1 hc
    exact isComponentChar_of_mem_namePart hc
  · have hend : "Schema".toList.all isComponentChar = true := by decide +kernel
    exact List.all_eq_true.1 hend

theorem isComponentName_toString (n : Nat) : IsComponentName (toString n) := by
  intro c hc
  have hdigits : (toString n).toList = Nat.toDigits 10 n := Nat.toList_repr
  rw [hdigits] at hc
  exact isComponentChar_of_isDigit (Nat.isDigit_of_mem_toDigits (by decide) (by decide) hc)

namespace Registry

section

variable (r : Registry) {base : String}

theorem freeName_of_free (h : Table.has base r.components = false) : r.freeName base = base := by
  rw [freeName, h, if_neg Bool.false_ne_true]

/-- The search for a number ends: the name is taken with the first number that is free. -/
theorem exists_freeName_eq (h : Table.has base r.components = true) :
    ∃ n, 1 ≤ n ∧ r.freeName base = base ++ toString n ∧
      Table.has (base ++ toString n) r.components = false ∧
      ∀ m, 1 ≤ m → m < n → Table.has (base ++ toString m) r.components = true := by
  obtain ⟨i, hi, hfree⟩ := r.exists_free_number base
  -- some number is free, and so the search has a result, which is the first free one
  have hsome : ((List.range (r.components.length + 1)).find? fun i =>
      !Table.has (base ++ toString (i + 1)) r.components).isSome = true := by
    rw [List.find?_isSome]
    exact ⟨i, List.mem_range.2 hi, by rw [hfree, Bool.not_false]⟩
  obtain ⟨k, hk⟩ := Option.isSome_iff_exists.1 hsome
  obtain ⟨hkfree, -, hbefore⟩ := List.find?_range_eq_some.1 hk
  refine ⟨k + 1, Nat.le_add_left 1 k, ?_, by simpa using hkfree, ?_⟩
  · rw [freeName, if_pos h]
    dsimp only
    rw [List.find?_map]
    exact congrArg (fun o => (o.map fun i => base ++ toString (i + 1)).getD base) hk
  · intro m hm hlt
    obtain ⟨j, rfl⟩ := Nat.exists_eq_add_of_le' hm
    simpa using hbefore j (Nat.lt_of_succ_lt_succ hlt)

theorem isComponentName_freeName (h : IsComponentName base) :
    IsComponentName (r.freeName base) := by
  cases hbase : Table.has base r.components with
  | false => rwa [r.freeName_of_free hbase]
  | true =>
    obtain ⟨n, -, hname, -⟩ := r.exists_freeName_eq hbase
    rw [hname]
    exact h.append (isComponentName_toString n)

end

/-! ## Calls -/

/-- A schema is an object, and its properties are an object if it has any. -/
def IsSchema (v : Json) : Prop :=
  ∃ fields, v = .obj fields ∧
    ∀ p, Table.find "properties" fields = some p → ∃ props, p = .obj props

/-- The registry after schemas have been extracted, one after another. -/
def extractAll (r : Registry) (schemas : List Json) : Registry :=
  schemas.foldl (fun r v => (r.extract v).registry) r

/-- The registry after any values have been extracted, one after another. -/
def extractAll? : Registry → List Json → Except NameFault Registry
  | r, [] => .ok r
  | r, v :: vs =>
    match r.extract? v with
    | .ok x => x.registry.extractAll? vs
    | .error e => .error e

variable {r : Registry} {v : Json}

theorem extract?_of_isSchema (h : IsSchema v) : r.extract? v = .ok (r.extract v) := by
  obtain ⟨fields, rfl, hprops⟩ := h
  cases hfind : Table.find "properties" fields with
  | none => simp [extract?, extract, Schema.propertyNames, Json.get?, hfind]
  | some p =>
    obtain ⟨props, rfl⟩ := hprops p hfind
    exact extract?_ofProperties hfind

/-- Nothing fails for schemas. -/
theorem extractAll?_eq {schemas : List Json} (h : ∀ v ∈ schemas, IsSchema v) :
    ∀ r : Registry, r.extractAll? schemas = .ok (r.extractAll schemas) := by
  induction schemas with
  | nil => exact fun r => rfl
  | cons v vs ih =>
    intro r
    obtain ⟨hv, hvs⟩ := List.forall_mem_cons.1 h
    rw [extractAll?, extract?_of_isSchema hv]
    exact ih hvs _

/-- A schema without properties stays as it is. -/
theorem isEmpty_propertyNames_iff (h : IsSchema v) :
    (Schema.propertyNames v).isEmpty = true ↔
      v.get? "properties" = none ∨ v.get? "properties" = some (.obj []) := by
  obtain ⟨fields, rfl, hprops⟩ := h
  rw [Schema.propertyNames, Json.get?]
  cases hfind : Table.find "properties" fields with
  | none => simp
  | some p =>
    obtain ⟨props, rfl⟩ := hprops p hfind
    simp [Table.keys]

/-- A reference is read back. -/
theorem componentRef_injective : Function.Injective componentRef := by
  intro name name' h
  simpa [componentRef, String.append_right_inj] using h

/-- A reference is no schema with properties. -/
theorem componentRef_ne (h : (Schema.propertyNames v).isEmpty = false) (name : String) :
    componentRef name ≠ v := by
  rintro rfl
  simp [componentRef, Schema.propertyNames, Json.get?, Table.find] at h

/-! ## What calls keep -/

/-- The state between two calls: nothing is counted any more, and the components are in order. -/
structure IsOrderly (usage : Table String Nat) (r : Registry) : Prop where
  usage : r.usage = usage
  sound : r.Sound
  components : r.components.Distinct
  names : r.names.Distinct
  named : ∀ name ∈ Table.keys r.components, IsComponentName name

section

variable {usage : Table String Nat}

theorem isOrderly_ofUsage (usage : Table String Nat) : IsOrderly usage { usage } :=
  ⟨rfl, sound_ofUsage usage, List.nodup_nil, List.nodup_nil, by simp⟩

theorem IsOrderly.share (h : r.IsOrderly usage) {base : String} (hbase : IsComponentName base)
    (schema : Json) : (r.share base schema).registry.IsOrderly usage := by
  have hsound := h.sound.share base schema
  rcases share_cases r base schema with ⟨-, hx⟩ | ⟨-, name, -, hx⟩ | ⟨-, -, hx⟩
  · rwa [hx]
  · rwa [hx]
  · rw [hx] at hsound ⊢
    refine ⟨h.usage, hsound, h.components.put _ _, h.names.put _ _, ?_⟩
    intro name hname
    rcases Table.mem_keys_put.1 hname with hname | rfl
    · exact h.named name hname
    · exact r.isComponentName_freeName hbase

/-- One call. -/
theorem IsOrderly.extract (h : r.IsOrderly usage) (schema : Json) :
    (r.extract schema).registry.IsOrderly usage := by
  rw [Registry.extract]
  split
  · exact h
  · exact h.share (isComponentName_componentNameOf _) schema

/-- All calls, one after another. -/
theorem IsOrderly.extractAll (schemas : List Json) :
    ∀ {r : Registry}, r.IsOrderly usage → (r.extractAll schemas).IsOrderly usage := by
  induction schemas with
  | nil => exact fun h => h
  | cons v vs ih => exact fun h => ih (h.extract v)

end

theorem Extends.extract (r : Registry) (schema : Json) :
    r.Extends (r.extract schema).registry := by
  rw [Registry.extract]
  split
  · exact .refl r
  · exact .share r _ schema

theorem Extends.extractAll (schemas : List Json) :
    ∀ r : Registry, r.Extends (r.extractAll schemas) := by
  induction schemas with
  | nil => exact fun r => .refl r
  | cons v vs ih => exact fun r => (Extends.extract r v).trans (ih _)

theorem All.extract {P : Json → Prop} (h : r.All P) {schema : Json} (hs : P schema) :
    (r.extract schema).registry.All P := by
  rw [Registry.extract]
  split
  · exact h
  · exact h.share _ hs

theorem All.extractAll {P : Json → Prop} {schemas : List Json} (hs : ∀ s ∈ schemas, P s) :
    ∀ {r : Registry}, r.All P → (r.extractAll schemas).All P := by
  induction schemas with
  | nil => exact fun h => h
  | cons v vs ih =>
    intro r h
    obtain ⟨hv, hvs⟩ := List.forall_mem_cons.1 hs
    exact ih hvs (h.extract hv)

/-! ## One call among others -/

/-- Names and fingerprints of components are in one-to-one correspondence. -/
structure IsPaired (r : Registry) : Prop where
  /-- No name stands for two components. -/
  components : r.components.Distinct
  /-- No fingerprint has two names. -/
  names : r.names.Distinct
  /-- A fingerprint has the name of the component that has it. -/
  name_iff : ∀ key name, Table.find key r.names = some name ↔
    ∃ schema, Table.find name r.components = some schema ∧ Schema.fingerprint schema = key
  /-- No name is that of two fingerprints. -/
  unique : ∀ key key' name, Table.find key r.names = some name →
    Table.find key' r.names = some name → key = key'

theorem IsOrderly.isPaired {usage : Table String Nat} (h : r.IsOrderly usage) : r.IsPaired where
  components := h.components
  names := h.names
  name_iff := by
    intro key name
    constructor
    · exact h.sound.component
    · rintro ⟨schema, hfind, rfl⟩
      exact h.sound.name hfind
  unique := by
    intro key key' name hkey hkey'
    obtain ⟨schema, hfind, rfl⟩ := h.sound.component hkey
    obtain ⟨schema', hfind', rfl⟩ := h.sound.component hkey'
    rw [hfind] at hfind'
    rw [Option.some_inj.1 hfind']

/-- What becomes of a schema `v` that is extracted after the schemas `before` and before the schemas
`later`: `r` and `r'` are the registries before it and at the end. -/
structure Registers (usage : Table String Nat) (before : List Json) (v : Json) (later : List Json)
    (r : Registry) (x : Extraction) (r' : Registry) : Prop where
  /-- No call fails. -/
  run : extractAll? { usage } before = .ok r
  call : r.extract? v = .ok x
  rest : x.registry.extractAll? later = .ok r'
  /-- Names and fingerprints correspond. -/
  paired : r.IsPaired
  /-- Names have letters, digits and underscores alone. -/
  named : ∀ name ∈ Table.keys r.components, IsComponentName name
  /-- The search for a number behind a name that is taken ends at the first that is free. -/
  ends : ∀ base, Table.has base r.components = true →
    ∃ n, 1 ≤ n ∧ r.freeName base = base ++ toString n ∧
      Table.has (base ++ toString n) r.components = false ∧
      ∀ m, 1 ≤ m → m < n → Table.has (base ++ toString m) r.components = true
  /-- The schema stays just if it has no properties, or no other body has its shape. -/
  stays_iff : x.schema = v ↔
    (v.get? "properties" = none ∨ v.get? "properties" = some (.obj [])) ∨
      (Table.find (Schema.fingerprint v) usage).getD 0 ≤ 1
  /-- Otherwise a reference takes its place, to a component of its fingerprint, which is the same at
  the end. -/
  refers : x.schema ≠ v → ∃ name schema, x.schema = componentRef name ∧
    Table.find name x.registry.components = some schema ∧
    Schema.fingerprint schema = Schema.fingerprint v ∧
    Table.find name r'.components = some schema
  /-- What was registered before stays, and so does what is registered now. -/
  kept : r.Extends x.registry ∧ x.registry.Extends r'

/-- What takes the place of a schema: the schema itself if its shape is rare, and otherwise a
reference to a component of its fingerprint. -/
theorem Sound.share_schema (h : r.Sound) (base : String) (schema : Json) :
    r.uses (Schema.fingerprint schema) ≤ 1 ∧ (r.share base schema).schema = schema ∨
    1 < r.uses (Schema.fingerprint schema) ∧ ∃ name component,
      (r.share base schema).schema = componentRef name ∧
      Table.find name (r.share base schema).registry.components = some component ∧
      Schema.fingerprint component = Schema.fingerprint schema := by
  rcases share_cases r base schema with ⟨hrare, hx⟩ | ⟨huses, name, hname, hx⟩ | ⟨huses, -, hx⟩
  · exact .inl ⟨hrare, by rw [hx]⟩
  · obtain ⟨component, hfind, hkey⟩ := h.component hname
    rw [hx]
    exact .inr ⟨huses, name, component, rfl, hfind, hkey⟩
  · rw [hx]
    exact .inr ⟨huses, _, schema, rfl, Table.find_put_self .., rfl⟩

/-- The same for a schema that may have no properties. -/
theorem Sound.extract_schema (h : r.Sound) (v : Json) :
    ((Schema.propertyNames v).isEmpty = true ∨ r.uses (Schema.fingerprint v) ≤ 1) ∧
      (r.extract v).schema = v ∨
    (Schema.propertyNames v).isEmpty = false ∧ 1 < r.uses (Schema.fingerprint v) ∧
      ∃ name component, (r.extract v).schema = componentRef name ∧
        Table.find name (r.extract v).registry.components = some component ∧
        Schema.fingerprint component = Schema.fingerprint v := by
  rw [Registry.extract]
  split
  · next hempty => exact .inl ⟨.inl hempty, rfl⟩
  · next hprops =>
    rcases h.share_schema (componentName v) v with ⟨hrare, hx⟩ | ⟨huses, hx⟩
    · exact .inl ⟨.inr hrare, hx⟩
    · exact .inr ⟨by simpa using hprops, huses, hx⟩

/-- **Components stay what they are.** However shapes are counted and whatever schemas are extracted
in whatever order: names and fingerprints are in one-to-one correspondence at every time, a schema
becomes a reference to a component of its fingerprint just if it has properties and a repeated shape,
and the reference means the same component ever after. -/
theorem exists_registers (usage : Table String Nat) {before later : List Json} {v : Json}
    (hbefore : ∀ w ∈ before, IsSchema w) (hv : IsSchema v) (hlater : ∀ w ∈ later, IsSchema w) :
    ∃ r x r', Registers usage before v later r x r' := by
  have hr := IsOrderly.extractAll before (isOrderly_ofUsage usage)
  generalize hrun : extractAll { usage } before = r at hr
  have huses : r.uses (Schema.fingerprint v) = (Table.find (Schema.fingerprint v) usage).getD 0 := by
    rw [uses, hr.usage]
  have hkept := Extends.extractAll later (r.extract v).registry
  refine ⟨r, r.extract v, (r.extract v).registry.extractAll later, ?_⟩
  refine {
    run := by rw [extractAll?_eq hbefore, hrun]
    call := extract?_of_isSchema hv
    rest := extractAll?_eq hlater _
    paired := hr.isPaired
    named := hr.named
    ends := fun base hbase => r.exists_freeName_eq hbase
    stays_iff := ?_
    refers := ?_
    kept := ⟨.extract r v, hkept⟩ }
  · rw [← isEmpty_propertyNames_iff hv, ← huses]
    rcases hr.sound.extract_schema v with ⟨hplain, hx⟩ | ⟨hprops, hrepeated, name, component, hx, -⟩
    · exact ⟨fun _ => hplain, fun _ => hx⟩
    · -- a reference is no schema with properties
      constructor
      · intro hsame
        exact absurd (hx.symm.trans hsame) (componentRef_ne hprops name)
      · rintro (hempty | hrare)
        · rw [hprops] at hempty
          cases hempty
        · exact absurd hrare (Nat.not_le.2 hrepeated)
  · intro hchanged
    rcases hr.sound.extract_schema v with ⟨-, hx⟩ | ⟨-, -, name, component, hx, hfind, hkey⟩
    · exact absurd hx hchanged
    · exact ⟨name, component, hx, hfind, hkey, hkept _ _ hfind⟩

/-- A schema with one property of a type, whose component would be called `IdSchema`. -/
def oneProperty (type : SchemaType) : Json :=
  .obj [("type", .str "object"), ("properties", .obj [("id", Schema.bare type)])]

theorem isSchema_oneProperty (type : SchemaType) : IsSchema (oneProperty type) :=
  ⟨_, rfl, fun _ hp => ⟨_, (Option.some_inj.1 hp).symm⟩⟩

/-- Three shapes that ask for one name, each of two bodies. -/
def crowdedUsage : Table String Nat :=
  (ofUsage ([.string, .integer, .boolean, .string, .integer, .boolean].map oneProperty)).usage

theorem exists_registers_oneProperty :
    (∀ w ∈ [oneProperty .string], IsSchema w) ∧ IsSchema (oneProperty .integer) ∧
      (∀ w ∈ [oneProperty .boolean], IsSchema w) ∧
      ∃ r x r', Registers crowdedUsage [oneProperty .string] (oneProperty .integer)
        [oneProperty .boolean] r x r' := by
  have hschemas (type : SchemaType) : ∀ w ∈ [oneProperty type], IsSchema w := by
    simpa using isSchema_oneProperty type
  exact ⟨hschemas .string, isSchema_oneProperty .integer, hschemas .boolean,
    exists_registers crowdedUsage (hschemas .string) (isSchema_oneProperty .integer)
      (hschemas .boolean)⟩

end Registry

end SequenceApi
