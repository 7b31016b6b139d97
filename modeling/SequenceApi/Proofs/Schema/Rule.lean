import SequenceApi.Proofs.Json.Within
import SequenceApi.Proofs.Text.Numeral
import SequenceApi.Proofs.Text.Padding
import SequenceApi.Schema.Rule

/-!
# Written rules

A field is declared by its type and by clauses behind it: that it is required, its bounds, its
format and an example. The clauses may be written in any order and with blanks around the commas,
for each of them says one field of the rule, and none says the field of another. So the rule that is
read is the one that was written. A format and an example are taken as they stand, whatever they
look like, up to the next comma and without the blanks at the end.

The schema of the rule has its bounds under keys that depend on the type, and besides these the
fields that are written, and no others.

## Main definitions

* `Rule.Clause`: what stands behind the type
* `FieldDeclaration`: a field as it can be written
* `FieldDeclaration.Writes`: the texts for a declaration
* `FieldDeclaration.IsStated`: the schema that says what is declared

## Main results

* `Rule.apply_text`: a clause says its own field
* `FieldDeclaration.foldl_set`: the order of clauses does not matter
* `FieldDeclaration.reads_back`: the rule that is read is the one that was written
-/

namespace SequenceApi

open Text

theorem SchemaType.ofName?_name (type : SchemaType) : SchemaType.ofName? type.name = some type := by
  cases type <;> rfl

/-! ## Parts between commas -/

/-- A text that can be a part of a rule: it holds no comma, and no blanks stand around it. -/
structure IsPart (cs : List Char) : Prop where
  comma : ',' ∉ cs
  trim : trim cs = cs

/-- A text that can stand at the end of a part. -/
structure IsArgument (cs : List Char) : Prop where
  comma : ',' ∉ cs
  ink : ∀ c ∈ cs.getLast?, isBlank c = false

/-- A text that can stand before the colon of a part. -/
structure IsKey (key : List Char) : Prop where
  ne_nil : key ≠ []
  letters : (key.all fun c => !isBlank c && c != ',' && c != ':') = true

theorem IsKey.letter {key : List Char} (h : IsKey key) {c : Char} (hc : c ∈ key) :
    isBlank c = false ∧ c ≠ ',' ∧ c ≠ ':' := by
  have hletter := List.all_eq_true.1 h.letters c hc
  simpa [and_assoc] using hletter

/-- A key and an argument behind a colon are a part. -/
theorem isPart_keyed {key cs : List Char} (hkey : IsKey key) (hcs : IsArgument cs) :
    IsPart (key ++ ':' :: cs) where
  comma := by
    intro h
    rcases List.mem_append.1 h with h | h
    · exact (hkey.letter h).2.1 rfl
    · rcases List.mem_cons.1 h with h | h
      · cases h
      · exact hcs.comma h
  trim := by
    apply trim_eq_self
    · intro c hc
      rw [List.head?_append_of_ne_nil key hkey.ne_nil] at hc
      exact (hkey.letter (List.mem_of_mem_head? hc)).1
    · intro c hc
      rw [List.getLast?_append_of_ne_nil key (List.cons_ne_nil ':' cs)] at hc
      -- without an argument, the colon is the last character
      cases cs with
      | nil =>
        obtain rfl : ':' = c := by simpa using hc
        decide
      | cons d ds =>
        rw [List.getLast?_cons_cons] at hc
        exact hcs.ink c hc

theorem isPart_name (type : SchemaType) : IsPart type.name.toList := by
  cases type <;> exact ⟨by decide, by decide⟩

theorem isArgument_toString (n : Int) : IsArgument (toString n).toList where
  comma := by
    rw [toList_toString]
    intro h
    rcases mem_intText h with h | h
    · cases h
    · cases h
  ink := by
    intro c hc
    rw [toList_toString] at hc
    exact isBlank_of_mem_intText (List.mem_of_getLast? hc)

/-- Padding brings in no comma. -/
theorem IsPadded.comma {w p : List Char} (h : IsPadded w p) (hw : ',' ∉ w) : ',' ∉ p := by
  obtain ⟨front, back, hfront, hback, rfl⟩ := h
  intro hmem
  rcases List.mem_append.1 hmem with hmem | hmem
  · rcases List.mem_append.1 hmem with hmem | hmem
    · exact absurd (hfront _ hmem) (by decide)
    · exact hw hmem
  · exact absurd (hback _ hmem) (by decide)

/-- Parts that are padded and put together with commas are found again. -/
theorem parts_joined {words padded : List String} (hne : words ≠ [])
    (hwords : ∀ w ∈ words, IsPart w.toList)
    (h : List.Forall₂ (fun w p => IsPadded w.toList p.toList) words padded) :
    Rule.parts (joined "," padded) = words.map String.toList := by
  have hpadded : padded ≠ [] := by
    rintro rfl
    cases h
    exact hne rfl
  have hparts : (∀ p ∈ padded, ',' ∉ p.toList) ∧
      padded.map (fun p => trim p.toList) = words.map String.toList := by
    clear hne hpadded
    -- Induction on the words: padding brings in no comma, and it is trimmed away.
    induction h with
    | nil => exact ⟨List.forall_mem_nil _, rfl⟩
    | cons hwp _ ih =>
      obtain ⟨hw, hws⟩ := List.forall_mem_cons.1 hwords
      obtain ⟨hcomma, htrim⟩ := ih hws
      refine ⟨List.forall_mem_cons.2 ⟨hwp.comma hw.comma, hcomma⟩, ?_⟩
      rw [List.map_cons, List.map_cons, hwp.trim_eq, hw.trim, htrim]
  have hpieces : pieces ',' (joined "," padded).toList = padded.map String.toList :=
    @pieces_joined ',' _ hpadded hparts.1
  rw [Rule.parts, hpieces, List.map_map]
  exact hparts.2

/-! ## Clauses -/

/-- A bound that is written as an integer is that integer. -/
theorem Bound.read?_toString {n : Int} (h : Json.IsShort n) :
    Bound.read? (toString n).toList = some (.int n) := by
  have htrim : trim (toString n).toList = (toString n).toList := by
    apply trim_of_ink
    intro c hc
    rw [toList_toString] at hc
    exact isBlank_of_mem_intText hc
  simp only [Bound.read?, htrim, integer?_toString h]

namespace Rule

/-- What stands behind the type in a rule. -/
inductive Clause where
  | required
  | minimum (n : Int)
  | maximum (n : Int)
  | format (s : String)
  | sample (s : String)
  deriving DecidableEq, Repr

namespace Clause

/-- The key and the argument of a clause. That the field is required is said by one word. -/
def keyed? : Clause → Option (String × String)
  | required => none
  | minimum n => some ("min", toString n)
  | maximum n => some ("max", toString n)
  | format s => some ("format", s)
  | sample s => some ("example", s)

/-- The text of a clause. -/
def text (c : Clause) : String :=
  match c.keyed? with
  | none => "required"
  | some (key, argument) => key ++ ":" ++ argument

/-- The rule in which the clause's own field is as the clause says. -/
def set (r : Rule) : Clause → Rule
  | required => { r with required := true }
  | minimum n => { r with minimum := some (.int n) }
  | maximum n => { r with maximum := some (.int n) }
  | format s => { r with format := some s }
  | sample s => { r with sample := some s }

/-- The clause can be written: integers are not too long, and texts end before the comma. -/
def IsWritable : Clause → Prop
  | required => True
  | minimum n | maximum n => Json.IsShort n
  | format s | sample s => IsArgument s.toList

section

variable {c : Clause} {key argument : String}

theorem toList_text (h : c.keyed? = some (key, argument)) :
    c.text.toList = key.toList ++ ':' :: argument.toList := by
  simp [text, h]

theorem isKey_of_keyed? (h : c.keyed? = some (key, argument)) : IsKey key.toList := by
  cases c with
  | required => cases h
  | _ =>
    obtain ⟨rfl, -⟩ := Prod.mk.inj (Option.some.inj h)
    exact ⟨by decide, rfl⟩

theorem isArgument_of_keyed? (hc : c.IsWritable) (h : c.keyed? = some (key, argument)) :
    IsArgument argument.toList := by
  cases c with
  | required => cases h
  | minimum n | maximum n =>
    obtain ⟨-, rfl⟩ := Prod.mk.inj (Option.some.inj h)
    exact isArgument_toString n
  | format s | sample s =>
    obtain ⟨-, rfl⟩ := Prod.mk.inj (Option.some.inj h)
    exact hc

theorem isPart_text (hc : c.IsWritable) : IsPart c.text.toList := by
  cases h : c.keyed? with
  | none =>
    rw [text, h]
    exact ⟨by decide, by decide⟩
  | some keyed =>
    rw [toList_text h]
    exact isPart_keyed (isKey_of_keyed? h) (isArgument_of_keyed? hc h)

end

end Clause

/-- A part with a colon is read by the key in front of the first one. -/
theorem apply_keyed {key : List Char} (hkey : IsKey key) (r : Rule) (cs : List Char) :
    r.apply (key ++ ':' :: cs) =
      if key = "min".toList then { r with minimum := Bound.read? cs }
      else if key = "max".toList then { r with maximum := Bound.read? cs }
      else if key = "format".toList then { r with format := some (String.ofList cs) }
      else if key = "example".toList then { r with sample := some (String.ofList cs) }
      else r := by
  have hcolon : ':' ∉ key := fun h => (hkey.letter h).2.2 rfl
  have hpart : key ++ ':' :: cs ≠ requiredPart := by
    intro h
    have hmem : ':' ∈ requiredPart := by
      rw [← h]
      exact List.mem_append_right key List.mem_cons_self
    revert hmem
    decide
  rw [apply, if_neg hpart, cut_append_of_not_mem hcolon]

/-- The name of a type says nothing more. -/
theorem apply_name (r : Rule) (type : SchemaType) : r.apply type.name.toList = r := by
  cases type <;> rfl

/-- A clause says its own field. -/
theorem apply_text {c : Clause} (hc : c.IsWritable) (r : Rule) :
    r.apply c.text.toList = c.set r := by
  -- the keys are tried one after another
  have hkeyed {key argument : String} (h : c.keyed? = some (key, argument)) :=
    Clause.toList_text h ▸ apply_keyed (Clause.isKey_of_keyed? h) r argument.toList
  cases c with
  | required => rfl
  | minimum n =>
    rw [hkeyed rfl, if_pos rfl, Bound.read?_toString hc]
    rfl
  | maximum n =>
    rw [hkeyed rfl, if_neg (by decide), if_pos rfl, Bound.read?_toString hc]
    rfl
  | format s =>
    rw [hkeyed rfl, if_neg (by decide), if_neg (by decide), if_pos rfl, String.ofList_toList]
    rfl
  | sample s =>
    rw [hkeyed rfl, if_neg (by decide), if_neg (by decide), if_neg (by decide), if_pos rfl,
      String.ofList_toList]
    rfl

/-! ## The schema of a rule -/

/-- The fields of a rule's schema, where each but the type may be missing. -/
def schemaFields (r : Rule) : List (String × Option Json) :=
  [("type", some (.str r.type.name)), ("format", r.format.map .str),
    ((boundKeys r.type).1, r.minimum.map Bound.toJson),
    ((boundKeys r.type).2, r.maximum.map Bound.toJson), ("example", r.sample.map .str)]

theorem distinct_schemaFields (r : Rule) : Table.Distinct r.schemaFields := by
  rw [Table.Distinct, schemaFields]
  cases r.type <;> simp [boundKeys]

theorem get?_toSchema (r : Rule) (k : String) :
    r.toSchema.get? k = (Table.find k r.schemaFields).join :=
  Json.get?_ofSome r.distinct_schemaFields k

end Rule

/-! ## Declarations -/

/-- A field as it can be declared: its bounds are integers that are not too long, and its texts hold
no comma and end with no blank. -/
structure FieldDeclaration where
  type : SchemaType
  required : Bool
  minimum : Option Int
  maximum : Option Int
  format : Option String
  sample : Option String
  minimum_short : ∀ n ∈ minimum, Json.IsShort n
  maximum_short : ∀ n ∈ maximum, Json.IsShort n
  format_argument : ∀ s ∈ format, IsArgument s.toList
  sample_argument : ∀ s ∈ sample, IsArgument s.toList

namespace FieldDeclaration

open Rule (Clause)

variable (d : FieldDeclaration)

/-- The rule of the declared field. -/
def rule : Rule where
  type := d.type
  required := d.required
  minimum := d.minimum.map .int
  maximum := d.maximum.map .int
  format := d.format
  sample := d.sample

/-- The clauses that say what is declared, besides the type. -/
def clauses : List Clause :=
  (if d.required then [.required] else []) ++ d.minimum.toList.map .minimum ++
    d.maximum.toList.map .maximum ++ d.format.toList.map .format ++ d.sample.toList.map .sample

/-- The text is a writing of the declaration: the type, and behind it the clauses in any order, with
commas between them and blanks around each of them. -/
def Writes (text : String) : Prop :=
  ∃ (clauses : List Clause) (padded : List String), clauses.Perm d.clauses ∧
    List.Forall₂ (fun w p => IsPadded w.toList p.toList)
      (d.type.name :: clauses.map Clause.text) padded ∧
    text = joined "," padded

variable {d}

/-- A clause of the declaration says what is declared. -/
theorem mem_clauses_iff {c : Clause} : c ∈ d.clauses ↔
    match c with
    | .required => d.required = true
    | .minimum n => d.minimum = some n
    | .maximum n => d.maximum = some n
    | .format s => d.format = some s
    | .sample s => d.sample = some s := by
  unfold clauses
  cases c <;> simp

theorem isWritable_of_mem {c : Clause} (h : c ∈ d.clauses) : c.IsWritable := by
  rw [mem_clauses_iff] at h
  cases c with
  | required => trivial
  | minimum n => exact d.minimum_short n h
  | maximum n => exact d.maximum_short n h
  | format s => exact d.format_argument s h
  | sample s => exact d.sample_argument s h

/-- Two clauses of one declaration say different fields, or the same. -/
theorem set_comm {b c : Clause} (hb : b ∈ d.clauses) (hc : c ∈ d.clauses) (r : Rule) :
    c.set (b.set r) = b.set (c.set r) := by
  rw [mem_clauses_iff] at hb hc
  -- clauses of two kinds write two fields, and of one kind there is one clause at most
  cases b with
  | required => cases c <;> rfl
  | minimum n =>
    cases c with
    | minimum m =>
      obtain rfl : n = m := Option.some.inj (hb.symm.trans hc)
      rfl
    | _ => rfl
  | maximum n =>
    cases c with
    | maximum m =>
      obtain rfl : n = m := Option.some.inj (hb.symm.trans hc)
      rfl
    | _ => rfl
  | format s =>
    cases c with
    | format t =>
      obtain rfl : s = t := Option.some.inj (hb.symm.trans hc)
      rfl
    | _ => rfl
  | sample s =>
    cases c with
    | sample t =>
      obtain rfl : s = t := Option.some.inj (hb.symm.trans hc)
      rfl
    | _ => rfl

/-- All clauses together say the rule. -/
theorem foldl_clauses (d : FieldDeclaration) :
    d.clauses.foldl Clause.set { type := d.type } = d.rule := by
  simp only [clauses, rule, List.foldl_append]
  -- each clause is there or missing, and so is its field
  cases d.required <;> cases d.minimum <;> cases d.maximum <;> cases d.format <;>
    cases d.sample <;> rfl

/-- The order of the clauses does not matter. -/
theorem foldl_set {clauses : List Clause} (h : clauses.Perm d.clauses) :
    clauses.foldl Clause.set { type := d.type } = d.rule := by
  rw [← foldl_clauses]
  apply List.Perm.foldl_eq' h
  intro b hb c hc r
  exact set_comm (h.subset hb) (h.subset hc) r

/-! ## The schema of a declaration -/

variable (d) in
/-- The schema says what is declared: the type, the format and the example, and the bounds under the
keys for the length of a text or else under those for a value. It says nothing else. -/
structure IsStated (schema : Json) : Prop where
  type : schema.get? "type" = some (.str d.type.name)
  format : schema.get? "format" = d.format.map .str
  sample : schema.get? "example" = d.sample.map .str
  minLength : schema.get? "minLength" = if d.type = .string then d.minimum.map .int else none
  maxLength : schema.get? "maxLength" = if d.type = .string then d.maximum.map .int else none
  minimum : schema.get? "minimum" = if d.type = .string then none else d.minimum.map .int
  maximum : schema.get? "maximum" = if d.type = .string then none else d.maximum.map .int
  only : ∃ fields, schema = .obj fields ∧ Table.Distinct fields ∧ ∀ k ∈ Table.keys fields,
    k ∈ ["type", "format", "minLength", "maxLength", "minimum", "maximum", "example"]

theorem isStated_toSchema (d : FieldDeclaration) : d.IsStated d.rule.toSchema := by
  have hbound (o : Option Int) : (o.map Bound.int).map Bound.toJson = o.map .int := by
    cases o <;> rfl
  have hkeys : ∀ k ∈ Table.keys d.rule.schemaFields,
      k ∈ ["type", "format", "minLength", "maxLength", "minimum", "maximum", "example"] := by
    simp only [Rule.schemaFields, rule]
    cases d.type <;> simp [Rule.boundKeys]
  have honly : ∃ fields, d.rule.toSchema = .obj fields ∧ Table.Distinct fields ∧
      ∀ k ∈ Table.keys fields,
        k ∈ ["type", "format", "minLength", "maxLength", "minimum", "maximum", "example"] := by
    have hsub := Json.keys_filterMap_sublist d.rule.schemaFields
    exact ⟨_, rfl, List.Nodup.sublist hsub d.rule.distinct_schemaFields,
      fun k hk => hkeys k (hsub.subset hk)⟩
  -- the type chooses between the keys for lengths and those for values
  by_cases htype : d.type = .string
  · constructor
    case only => exact honly
    all_goals
      rw [Rule.get?_toSchema]
      simp [Rule.schemaFields, rule, Table.find, Rule.boundKeys, htype, hbound]
  · have hkeys : Rule.boundKeys d.type = ("minimum", "maximum") := by
      cases hd : d.type with
      | string => exact absurd hd htype
      | _ => rfl
    constructor
    case only => exact honly
    all_goals
      rw [Rule.get?_toSchema]
      simp [Rule.schemaFields, rule, Table.find, hkeys, htype, hbound]

/-- A field that is declared is read back from every writing of it, and the schema says what is
declared. -/
theorem reads_back {text : String} (h : d.Writes text) :
    Rule.read? text = some d.rule ∧ d.IsStated d.rule.toSchema := by
  obtain ⟨clauses, padded, hperm, hpadded, rfl⟩ := h
  have hwritable : ∀ c ∈ clauses, c.IsWritable :=
    fun c hc => isWritable_of_mem (hperm.subset hc)
  have hwords : ∀ w ∈ d.type.name :: clauses.map Clause.text, IsPart w.toList := by
    intro w hw
    rcases List.mem_cons.1 hw with rfl | hw
    · exact isPart_name d.type
    · obtain ⟨c, hc, rfl⟩ := List.mem_map.1 hw
      exact Clause.isPart_text (hwritable c hc)
  have hparts := parts_joined (List.cons_ne_nil _ _) hwords hpadded
  have htype : Rule.typeOf? (Rule.parts (joined "," padded)) = some d.type := by
    rw [hparts, Rule.typeOf?]
    simp [SchemaType.ofName?_name]
  -- the name of the type says nothing more, and each clause says its own field
  have hclauses : (clauses.map Clause.text).foldl (fun r w => r.apply w.toList) { type := d.type } =
      clauses.foldl Clause.set { type := d.type } := by
    rw [List.foldl_map]
    apply List.foldl_ext
    intro r c hc
    exact Rule.apply_text (hwritable c hc) r
  refine ⟨?_, isStated_toSchema d⟩
  simp only [Rule.read?, htype]
  rw [hparts, List.foldl_map, List.foldl_cons, Rule.apply_name, hclauses, foldl_set hperm]

/-- A field whose format looks like a clause, and whose example is empty. -/
def lookalike : FieldDeclaration where
  type := .string
  required := true
  minimum := some (-3)
  maximum := some 40
  format := some "min:1"
  sample := some ""
  minimum_short := by
    rintro n ⟨⟩
    rw [Json.IsShort]
    decide
  maximum_short := by
    rintro n ⟨⟩
    rw [Json.IsShort]
    decide
  format_argument := by
    rintro s ⟨⟩
    refine ⟨by decide, fun c hc => ?_⟩
    obtain rfl : '1' = c := Option.some.inj hc
    rfl
  sample_argument := by
    rintro s ⟨⟩
    exact ⟨List.not_mem_nil, fun c hc => by cases hc⟩

theorem reads_back_lookalike :
    lookalike.Writes "string ,example: ,\trequired,format:min:1, max:40,min:-3" ∧
      Rule.read? "string ,example: ,\trequired,format:min:1, max:40,min:-3" =
        some lookalike.rule ∧
      lookalike.IsStated lookalike.rule.toSchema := by
  have hwrites : lookalike.Writes "string ,example: ,\trequired,format:min:1, max:40,min:-3" := by
    refine ⟨[.sample "", .required, .format "min:1", .maximum 40, .minimum (-3)],
      ["string ", "example: ", "\trequired", "format:min:1", " max:40", "min:-3"],
      by decide, ?_, by decide⟩
    exact .cons (isPadded_of_all [] [' '] rfl rfl _) <|
      .cons (isPadded_of_all [] [' '] rfl rfl _) <|
      .cons (isPadded_of_all ['\t'] [] rfl rfl _) <|
      .cons (isPadded_of_all [] [] rfl rfl _) <|
      .cons (isPadded_of_all [' '] [] rfl rfl _) <|
      .cons (isPadded_of_all [] [] rfl rfl _) .nil
  exact ⟨hwrites, reads_back hwrites⟩

end FieldDeclaration

end SequenceApi
