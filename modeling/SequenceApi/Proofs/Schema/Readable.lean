import SequenceApi.Proofs.Json.Within
import SequenceApi.Schema.Infer

/-!
# Readable schemas

An inferred schema is a value that a text can have if its body is one: the bounds of rules are short
integers or rounded numbers, and examples stay as they are. Each level of a body takes two levels of
its schema at most, one for the schema and one for the properties in it.

## Main definitions

* `Rule.BoundsAre`: the bounds of a rule are of a kind
* `Rule.IsReadable`: they are numbers that a text can have

## Main results

* `Rule.boundsAre_of_read?`, `Rule.isReadable_of_read?`: the rules that strings are
* `Json.IsWithin.infer`: inferred schemas
-/

namespace SequenceApi

/-! ## Bounds of rules -/

theorem Text.digitsValue_lt (cs : List Char) : digitsValue cs < 10 ^ cs.length := by
  refine foldl_lt_ten_pow fun c _ => ?_
  cases hc : digitValue c with
  | none => decide
  | some d => exact digitValue_lt hc

theorem Text.isShort_of_integer? {cs : List Char} {n : Int} (h : integer? cs = some n) :
    Json.IsShort n := by
  unfold integer? at h
  split at h
  · next negative ds _ =>
    split at h
    · next hlength =>
      have hlength : ds.length ≤ Json.longestInteger := hlength
      have hlt : digitsValue ds < 10 ^ Json.longestInteger :=
        Nat.lt_of_lt_of_le (digitsValue_lt ds) (Nat.pow_le_pow_right (by decide) hlength)
      have habs : n.natAbs = digitsValue ds := by
        obtain rfl := Option.some.inj h
        split <;> omega
      rw [Json.IsShort, habs]
      exact (Nat.length_toDigits_le_iff (by decide) (by decide)).2 hlt
    · cases h
  · cases h

theorem Bound.isReadable_of_read? {cs : List Char} {b : Bound} (h : read? cs = some b) :
    b.toJson.IsReadable := by
  rw [read?] at h
  split at h
  · next hn =>
    obtain rfl := Option.some_inj.1 h
    exact .int (Text.isShort_of_integer? hn)
  · obtain ⟨x, hx, rfl⟩ := Option.map_eq_some_iff.1 h
    exact .float (Text.decimal?_isRepresentable hx)

theorem Bound.depth_toJson (b : Bound) : b.toJson.depth = 0 := by
  cases b <;> rfl

namespace Rule

/-- The bounds that are given are of a kind. -/
structure BoundsAre (P : Bound → Prop) (r : Rule) : Prop where
  minimum : ∀ b ∈ r.minimum, P b
  maximum : ∀ b ∈ r.maximum, P b

/-- The bounds that are given are numbers that a text can have. -/
def IsReadable (r : Rule) : Prop :=
  r.BoundsAre fun b => b.toJson.IsReadable

variable {P : Bound → Prop} {r : Rule}

theorem BoundsAre.ofType (type : SchemaType) : BoundsAre P { type } :=
  ⟨by simp, by simp⟩

theorem BoundsAre.apply (h : r.BoundsAre P) (hP : ∀ cs b, Bound.read? cs = some b → P b)
    (part : List Char) : (r.apply part).BoundsAre P := by
  rw [Rule.apply]
  split
  · exact ⟨h.minimum, h.maximum⟩
  · split
    · exact h
    · split
      · exact ⟨fun b hb => hP _ b hb, h.maximum⟩
      · split
        · exact ⟨h.minimum, fun b hb => hP _ b hb⟩
        · split
          · exact ⟨h.minimum, h.maximum⟩
          · split
            · exact ⟨h.minimum, h.maximum⟩
            · exact h

theorem BoundsAre.foldl_apply (hP : ∀ cs b, Bound.read? cs = some b → P b)
    (parts : List (List Char)) :
    ∀ {r : Rule}, r.BoundsAre P → (parts.foldl Rule.apply r).BoundsAre P := by
  induction parts with
  | nil => exact fun h => h
  | cons part parts ih => exact fun h => ih (h.apply hP part)

/-- The bounds of a rule are those that texts spell. -/
theorem boundsAre_of_read? (hP : ∀ cs b, Bound.read? cs = some b → P b) {s : String}
    (h : read? s = some r) : r.BoundsAre P := by
  simp only [read?] at h
  split at h
  · obtain rfl := Option.some_inj.1 h
    exact BoundsAre.foldl_apply hP _ (.ofType _)
  · split at h
    · obtain rfl := Option.some_inj.1 h
      exact BoundsAre.foldl_apply hP _ (.ofType _)
    · cases h

theorem isReadable_of_read? {s : String} (h : read? s = some r) : r.IsReadable :=
  boundsAre_of_read? (fun _ _ => Bound.isReadable_of_read?) h

theorem IsReadable.toSchema (h : r.IsReadable) {n : Nat} : r.toSchema.IsWithin (n + 1) := by
  have hbound {o : Option Bound} (ho : ∀ b ∈ o, b.toJson.IsReadable) :
      ∀ v ∈ o.map Bound.toJson, v.IsWithin n := by
    intro v hv
    obtain ⟨b, hb, rfl⟩ := Option.map_eq_some_iff.1 hv
    exact ⟨ho b hb, by rw [b.depth_toJson]; exact Nat.zero_le n⟩
  refine Json.isWithin_ofSome ?_ ?_
  · cases r.type <;> simp [Table.Distinct]
  · simp only [List.forall_mem_cons]
    exact ⟨by simpa using Json.isWithin_str _, fun _ => Json.isWithin_of_mem_map_str,
      hbound h.minimum, hbound h.maximum, fun _ => Json.isWithin_of_mem_map_str, by simp⟩

end Rule

/-! ## Schemas -/

namespace Schema

open Json

variable {n : Nat}

theorem isWithin_bare (type : SchemaType) : (bare type).IsWithin (n + 1) :=
  isWithin_single (isWithin_str _)

theorem isWithin_typed (type : SchemaType) {v : Json} (h : v.IsWithin n) :
    (typed type v).IsWithin (n + 1) := by
  rw [typed, isWithin_obj_iff]
  exact ⟨by simp [Table.Distinct], by simpa using ⟨isWithin_str _, h⟩⟩

theorem isWithin_ofString (s : String) : (ofString s).IsWithin (n + 1) := by
  rw [ofString]
  split
  · next h => exact (Rule.isReadable_of_read? h).toSchema
  · exact isWithin_typed .string (isWithin_str s)

theorem inferFields_eq_map (fields : List (String × Json)) :
    inferFields fields = fields.map fun e => (e.1, infer e.2) := by
  induction fields with
  | nil => rfl
  | cons e fields ih => rw [inferFields, ih, List.map_cons]

end Schema

open Schema

/-- The schema of a body has two levels for each of the body, and one more. -/
theorem Json.IsWithin.infer {n : Nat} {v : Json} (h : v.IsWithin n) :
    (infer v).IsWithin (2 * n + 1) := by
  -- Induction on the body, with any number of levels that it has.
  obtain ⟨hv, hdepth⟩ := h
  induction hv generalizing n with
  | null => exact isWithin_bare .string
  | bool b => exact isWithin_typed .boolean (isWithin_bool b)
  | int h => exact isWithin_typed .integer ⟨.int h, Nat.zero_le _⟩
  | float h => exact isWithin_typed _ ⟨.float h, Nat.zero_le _⟩
  | str s => exact isWithin_ofString s
  | @arr items hitems ih =>
    obtain _ | n := n
    · exact absurd hdepth (Nat.not_succ_le_zero _)
    -- the first item gives the schema of the items, and all of them are the example
    have hdepths := depthItems_le_iff.1 (Nat.le_of_succ_le_succ hdepth)
    have hfirst : (inferFirst items).IsWithin (2 * n + 1) := by
      cases items with
      | nil => exact isWithin_bare .string
      | cons v vs => exact ih v List.mem_cons_self (hdepths v List.mem_cons_self)
    have harr : (Json.arr items).IsWithin (2 * n + 2) := by
      rw [isWithin_arr_iff]
      exact fun v hv => ⟨hitems v hv, Nat.le_trans (hdepths v hv) (by omega)⟩
    rw [Schema.infer, show 2 * (n + 1) + 1 = 2 * n + 2 + 1 by omega, isWithin_obj_iff]
    refine ⟨by simp [Table.Distinct], ?_⟩
    simp only [List.forall_mem_cons]
    exact ⟨isWithin_str _, hfirst.mono (by omega), harr, by simp⟩
  | @obj fields hd hfields ih =>
    obtain _ | n := n
    · exact absurd hdepth (Nat.not_succ_le_zero _)
    -- the schemas of the fields are in an object of their own
    have hdepths := depthFields_le_iff.1 (Nat.le_of_succ_le_succ hdepth)
    have hprops : (Json.obj (inferFields fields)).IsWithin (2 * n + 2) := by
      rw [isWithin_obj_iff, inferFields_eq_map]
      constructor
      · rwa [Table.Distinct, Table.keys, List.map_map]
      · intro e he
        obtain ⟨f, hf, rfl⟩ := List.mem_map.1 he
        exact ih f hf (hdepths f hf)
    rw [Schema.infer, show 2 * (n + 1) + 1 = 2 * n + 2 + 1 by omega, isWithin_obj_iff]
    constructor
    · split <;> simp [Table.Distinct]
    · simp only [List.cons_append, List.nil_append, List.forall_mem_cons]
      refine ⟨isWithin_str _, hprops, fun e he => ?_⟩
      split at he
      · cases he
      · obtain rfl := List.mem_singleton.1 he
        exact isWithin_strs _

end SequenceApi
