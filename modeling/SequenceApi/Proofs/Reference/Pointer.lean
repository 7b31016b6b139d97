import SequenceApi.Proofs.Document.Services
import SequenceApi.Reference.Target

/-!
# Keys in pointers

A reference to a path has the path's key behind its start, either as it is or as a part of a
pointer. Slashes divide a pointer into its parts, so a slash in a key is written as `~1`, and a
tilde as `~0`. The tildes are replaced first: the other way round, the tilde of a `~1` would be
replaced once more.

What is written in this way can be read back, since every tilde in it is followed by a digit that
says what the two stand for. So no two keys are written alike. But a key of a path may look like
another key that is written in a pointer, and then a reference to that one points to it as well.

## Main definitions

* `replaced`: a text with each occurrence of a character replaced
* `readPointer`: the key that a part of a pointer stands for

## Main results

* `escapePointer_eq_replaced`: first the tildes, then the slashes
* `escapePointer_injective`: no two keys are written alike
* `Node.pathPointer_mem_targets_iff`, `Node.schemaPointer_mem_targets_iff`: the references to paths
  and to schemas that have a target
* `Node.targets_of_keys`: the targets of a JSON document by its keys
-/

namespace SequenceApi

/-! ## Parts of pointers -/

/-- The text with each occurrence of a character replaced. -/
def replaced (c : Char) (s text : String) : String :=
  String.ofList (text.toList.flatMap fun d => if d == c then s.toList else [d])

theorem toList_replaced (c : Char) (s text : String) :
    (replaced c s text).toList = text.toList.flatMap fun d => if d == c then s.toList else [d] :=
  String.toList_ofList

/-- A key is written in two steps: first its tildes are replaced, and then its slashes. -/
theorem escapePointer_eq_replaced (key : String) :
    escapePointer key = replaced '/' "~1" (replaced '~' "~0" key) := by
  rw [← String.toList_inj, escapePointer, String.toList_ofList, toList_replaced, toList_replaced,
    List.flatMap_assoc]
  congr 1
  funext c
  by_cases htilde : c = '~'
  · simp [htilde]
  · by_cases hslash : c = '/'
    · simp [hslash]
    · simp [htilde, hslash]

/-- The key that a part of a pointer stands for. -/
def readPointer : List Char → List Char
  | '~' :: '0' :: cs => '~' :: readPointer cs
  | '~' :: '1' :: cs => '/' :: readPointer cs
  | c :: cs => c :: readPointer cs
  | [] => []

theorem readPointer_cons {c : Char} (h : c ≠ '~') (cs : List Char) :
    readPointer (c :: cs) = c :: readPointer cs := by
  rw [readPointer]
  -- neither of the two spellings with a tilde begins here
  · rintro _ rfl
    exact absurd rfl h
  · rintro _ rfl
    exact absurd rfl h

/-- A key is read back from the part of a pointer that it is written as. -/
theorem readPointer_escapePointer (key : String) :
    readPointer (escapePointer key).toList = key.toList := by
  rw [escapePointer, String.toList_ofList]
  induction key.toList with
  | nil => rfl
  | cons c cs ih =>
    rw [List.flatMap_cons]
    by_cases htilde : c = '~'
    · rw [htilde]
      exact congrArg ('~' :: ·) ih
    · by_cases hslash : c = '/'
      · rw [hslash]
        exact congrArg ('/' :: ·) ih
      · rw [if_neg (by simpa using htilde), if_neg (by simpa using hslash), List.singleton_append,
          readPointer_cons htilde, ih]

theorem escapePointer_injective : Function.Injective escapePointer := by
  intro key key' h
  rw [← String.toList_inj, ← readPointer_escapePointer, h, readPointer_escapePointer]

/-! ## References with a target -/

/-- A reference to a schema is none to a path. -/
theorem schemaPointer_append_ne (s t : String) : schemaPointer ++ s ≠ pathPointer ++ t := by
  intro h
  -- behind `#/` there is a `c` in one and a `p` in the other
  have hthird := congrArg (fun r => r.toList[2]?) h
  simp [schemaPointer, pathPointer] at hthird

namespace Node

variable {document : Node}

theorem pathPointer_mem_targets_iff {s : String} :
    pathPointer ++ s ∈ document.targets ↔
      ∃ e ∈ document.paths?.getD [], s = e.1.text ∨ s = escapePointer e.1.text := by
  rw [mem_targets_iff]
  constructor
  · rintro (⟨e, -, hschema⟩ | ⟨e, he, hpath⟩)
    · exact absurd hschema (schemaPointer_append_ne _ _)
    · exact ⟨e, he, by simpa [pathRefs, String.append_right_inj] using hpath⟩
  · rintro ⟨e, he, h⟩
    exact .inr ⟨e, he, by simpa [pathRefs, String.append_right_inj] using h⟩

theorem schemaPointer_mem_targets_iff {name : String} :
    schemaPointer ++ name ∈ document.targets ↔ ∃ e ∈ document.schemas, e.1.text = name := by
  rw [mem_targets_iff]
  constructor
  · rintro (⟨e, he, hschema⟩ | ⟨e, -, hpath⟩)
    · exact ⟨e, he, (String.append_right_inj schemaPointer).1 hschema⟩
    · simp only [pathRefs, List.mem_cons, List.not_mem_nil, or_false] at hpath
      rcases hpath with hpath | hpath
      · exact absurd hpath (schemaPointer_append_ne _ _)
      · exact absurd hpath (schemaPointer_append_ne _ _)
  · rintro ⟨e, he, rfl⟩
    exact .inl ⟨e, he, rfl⟩

/-- A key that is written as a part of a pointer has a target if it is the key of a path, or if what
it is written as is one. -/
theorem escapePointer_mem_targets_iff {key : String} :
    pathPointer ++ escapePointer key ∈ document.targets ↔
      ∃ e ∈ document.paths?.getD [], e.1.text = key ∨ e.1.text = escapePointer key := by
  rw [pathPointer_mem_targets_iff]
  constructor
  · rintro ⟨e, he, h | h⟩
    · exact ⟨e, he, .inr h.symm⟩
    · exact ⟨e, he, .inl (escapePointer_injective h).symm⟩
  · rintro ⟨e, he, rfl | h⟩
    · exact ⟨e, he, .inr rfl⟩
    · exact ⟨e, he, .inl h.symm⟩

/-! ## JSON documents -/

theorem exists_text_mem_ofFields {fields : List (String × Json)} {k : String} :
    (∃ e ∈ ofFields fields, e.1.text = k) ↔ k ∈ Table.keys fields := by
  simp [ofFields_eq_map, Table.keys, Scalar.text]

/-- The component schemas of a JSON document are an object in an object. -/
theorem exists_text_mem_schemas_ofJson {v : Json} {k : String} :
    (∃ e ∈ (ofJson v).schemas, e.1.text = k) ↔
      ∃ schemas, (v.get? "components").bind (Json.get? "schemas") = some (.obj schemas) ∧
        k ∈ Table.keys schemas := by
  have hsection : ((ofJson v).get? "components").bind (get? "schemas") =
      ((v.get? "components").bind (Json.get? "schemas")).map ofJson := by
    rw [get?_ofJson, Option.bind_map, Option.map_bind]
    congr 1
    funext w
    exact get?_ofJson "schemas" w
  rw [schemas, hsection, Option.bind_map]
  cases hschemas : (v.get? "components").bind (Json.get? "schemas") with
  | none => simp
  | some w =>
    cases w with
    | obj schemas =>
      have hkeys : (∃ e ∈ ofFields schemas, e.1.text = k) ↔ k ∈ Table.keys schemas :=
        exists_text_mem_ofFields
      simpa [ofJson, entries?] using hkeys
    | _ => simp [ofJson, entries?]

/-- **Targets by keys.** In a JSON document whose paths are an object, a reference to a path by a
key that is written as a part of a pointer has a target just if the key is the key of a path, or if
what it is written as is one; and a reference to a schema by its name, just if there is a schema of
that name. To write a key its tildes are replaced, and then its slashes, and no two keys are written
alike. -/
theorem targets_of_keys {v : Json} {paths : List (String × Json)}
    (h : v.get? "paths" = some (.obj paths)) :
    (∀ key, "#/paths/" ++ escapePointer key ∈ (ofJson v).targets ↔
        key ∈ Table.keys paths ∨ escapePointer key ∈ Table.keys paths) ∧
      (∀ name, "#/components/schemas/" ++ name ∈ (ofJson v).targets ↔
        ∃ schemas, (v.get? "components").bind (Json.get? "schemas") = some (.obj schemas) ∧
          name ∈ Table.keys schemas) ∧
      (∀ key, escapePointer key = replaced '/' "~1" (replaced '~' "~0" key)) ∧
      Function.Injective escapePointer := by
  have hpaths : (ofJson v).paths? = some (ofFields paths) :=
    Services.paths?_ofJson_eq_some_iff.2 ⟨paths, h, rfl⟩
  refine ⟨fun key => ?_, fun name => ?_, escapePointer_eq_replaced, escapePointer_injective⟩
  · have htargets := @escapePointer_mem_targets_iff (ofJson v) key
    rw [hpaths, Option.getD_some] at htargets
    simp only [and_or_left, exists_or, exists_text_mem_ofFields] at htargets
    exact htargets
  · exact schemaPointer_mem_targets_iff.trans exists_text_mem_schemas_ofJson

/-- A document with a path and a schema whose keys look as if they were written in a pointer. -/
def lookalikes : Json :=
  .obj [("paths", .obj [("/a~b", .obj []), ("~1c", .obj [])]),
    ("components", .obj [("schemas", .obj [("~1", .obj [])])])]

theorem targets_of_lookalikes :
    lookalikes.get? "paths" = some (.obj [("/a~b", .obj []), ("~1c", .obj [])]) ∧
      "#/paths/" ++ escapePointer "/a~b" ∈ (ofJson lookalikes).targets ∧
      "#/paths/" ++ escapePointer "/c" ∈ (ofJson lookalikes).targets ∧
      "#/paths/" ++ escapePointer "/d" ∉ (ofJson lookalikes).targets ∧
      "#/components/schemas/" ++ "~1" ∈ (ofJson lookalikes).targets ∧
      "#/components/schemas/" ++ "/" ∉ (ofJson lookalikes).targets := by
  have hpaths : lookalikes.get? "paths" = some (.obj [("/a~b", .obj []), ("~1c", .obj [])]) := rfl
  have hschemas : (lookalikes.get? "components").bind (Json.get? "schemas") =
      some (.obj [("~1", .obj [])]) := rfl
  obtain ⟨hkeys, hnames, -, -⟩ := targets_of_keys hpaths
  refine ⟨hpaths, (hkeys "/a~b").2 (.inl (by decide)), (hkeys "/c").2 (.inr (by decide)),
    fun h => absurd ((hkeys "/d").1 h) (by decide), (hnames "~1").2 ⟨_, hschemas, by decide⟩, ?_⟩
  intro h
  obtain ⟨schemas, hfound, hname⟩ := (hnames "/").1 h
  obtain rfl : [("~1", .obj [])] = schemas := by simpa [hschemas] using hfound
  exact absurd hname (by decide)

end Node

end SequenceApi
