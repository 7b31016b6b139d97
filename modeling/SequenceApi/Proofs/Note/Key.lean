import SequenceApi.Proofs.Text.Search

/-!
# Keys in notes

Nine keys of a note set fields of the operation, and a tenth declares security. All are searched for
in the whole text of a note, in any case. Eight of the nine must not go on with a longer word, so
that the description of other documentation is no description of the operation.

## Main definitions

* `Metadata.Field`, `Metadata.Key`: the fields that take a value as it is, and all nine keys
* `Metadata.get`, `Metadata.ofKeys`: the text of a field, and metadata from what the keys say
* `Metadata.Key.behind?`: what comes behind a key at a place
* `Note.StandsIn`: a key stands in a text

## Main results

* `Metadata.ofNote_eq_ofKeys`: a note read key by key
* `Note.valueHere?_eq_none_iff`: a key without a value
* `Note.standsIn_iff`: where a key stands
-/

namespace SequenceApi

open Text

namespace Metadata

/-- The fields that take the value of their key as it is. -/
inductive Field where
  | summary
  | description
  | operationId
  | requestMediaType
  | responseMediaType
  | docsUrl
  | docsDescription
  deriving DecidableEq, Repr

/-- The keys that set fields of the operation. -/
inductive Key where
  | text (field : Field)
  | tags
  | deprecated
  deriving DecidableEq, Repr

namespace Key

/-- The key as it is written. -/
def label : Key → String
  | .text .summary => "Summary"
  | .text .description => "Description"
  | .text .operationId => "Operation-Id"
  | .text .requestMediaType => "Request-Type"
  | .text .responseMediaType => "Response-Type"
  | .text .docsUrl => "External-Docs-Url"
  | .text .docsDescription => "External-Docs-Description"
  | .tags => "Tags"
  | .deprecated => "Deprecated"

/-- The key as it is searched for: in lower case, with its colon. -/
def word : Key → String
  | .text .summary => "summary:"
  | .text .description => "description:"
  | .text .operationId => "operation-id:"
  | .text .requestMediaType => "request-type:"
  | .text .responseMediaType => "response-type:"
  | .text .docsUrl => "external-docs-url:"
  | .text .docsDescription => "external-docs-description:"
  | .tags => "tags:"
  | .deprecated => "deprecated:"

/-- The key does not count where it goes on with a longer word. -/
def isWhole : Key → Bool
  | .deprecated => false
  | _ => true

/-- All keys. -/
def all : List Key :=
  [.text .summary, .text .description, .text .operationId, .text .requestMediaType,
    .text .responseMediaType, .text .docsUrl, .text .docsDescription, .tags, .deprecated]

theorem mem_all (k : Key) : k ∈ all := by
  rcases k with f | _ | _
  · cases f <;> decide
  all_goals decide

/-- What comes behind the key, if it stands at a place and counts there. -/
def behind? (k : Key) (before : Option Char) (here : List Char) : Option (List Char) :=
  (dropWord? k.word here).bind fun rest =>
    if k.isWhole && before.any Note.joinsKey then none else some rest

theorem isBlank_of_mem_word (k : Key) : ∀ p ∈ k.word.toList, isBlank p = false := by
  have hall : ∀ k ∈ all, (k.word.toList.all fun p => !isBlank p) = true := by decide +kernel
  exact forall_mem_eq_false (hall k k.mem_all)

/-- No key stands at the end of a text. -/
theorem dropWord?_nil (k : Key) : dropWord? k.word [] = none := by
  have hall : ∀ k ∈ all, dropWord? k.word [] = none := by decide +kernel
  exact hall k k.mem_all

theorem behind?_of_free {k : Key} {before : Option Char} (h : before.any Note.joinsKey = false)
    (here : List Char) : k.behind? before here = dropWord? k.word here := by
  rw [behind?, h, Bool.and_false]
  cases dropWord? k.word here <;> rfl

theorem dropWord?_of_behind? {k : Key} {before : Option Char} {here rest : List Char}
    (h : k.behind? before here = some rest) : dropWord? k.word here = some rest := by
  obtain ⟨after, hafter, hrest⟩ := Option.bind_eq_some_iff.1 h
  split at hrest
  · cases hrest
  · rw [hafter, hrest]

/-- A key that stands nowhere in a text is not found there. -/
theorem behind?_eq_none {k : Key} {here : List Char} (h : dropWord? k.word here = none)
    (before : Option Char) : k.behind? before here = none := by
  rw [behind?, h, Option.bind_none]

/-- Where the word of a key ends before a text, so does the key. -/
theorem behind?_append (k : Key) (before : Option Char) {here tail : List Char}
    (h : dropWord? k.word (here ++ tail) = (dropWord? k.word here).map (· ++ tail)) :
    k.behind? before (here ++ tail) = (k.behind? before here).map (· ++ tail) := by
  rw [behind?, behind?, h]
  cases dropWord? k.word here with
  | none => rfl
  | some rest =>
    rw [Option.map_some, Option.bind_some, Option.bind_some]
    split <;> rfl

end Key

/-! ## Metadata key by key -/

/-- The text of a field. -/
def get (m : Metadata) : Field → Option String
  | .summary => m.summary
  | .description => m.description
  | .operationId => m.operationId
  | .requestMediaType => m.requestMediaType
  | .responseMediaType => m.responseMediaType
  | .docsUrl => m.externalDocs.bind (·.url)
  | .docsDescription => m.externalDocs.bind (·.description)

/-- The metadata that have the given texts, tags and truth value. -/
def ofKeys (text : Field → Option String) (tags : Option (List String))
    (deprecated : Option Bool) : Metadata :=
  { summary := text .summary
    description := text .description
    operationId := text .operationId
    requestMediaType := text .requestMediaType
    responseMediaType := text .responseMediaType
    tags := tags
    deprecated := deprecated
    externalDocs :=
      match text .docsUrl, text .docsDescription with
      | none, none => none
      | url, description => some ⟨url, description⟩ }

@[simp] theorem get_ofKeys (text : Field → Option String) (tags : Option (List String))
    (deprecated : Option Bool) (f : Field) : (ofKeys text tags deprecated).get f = text f := by
  cases f with
  | docsUrl | docsDescription =>
    simp only [get, ofKeys]
    cases text .docsUrl <;> cases text .docsDescription <;> rfl
  | _ => rfl

/-- There is a link to other documentation just if one of its two fields has a text. -/
theorem externalDocs_ofKeys_eq_none_iff {text : Field → Option String}
    {tags : Option (List String)} {deprecated : Option Bool} :
    (ofKeys text tags deprecated).externalDocs = none ↔
      text .docsUrl = none ∧ text .docsDescription = none := by
  simp only [ofKeys]
  cases text .docsUrl <;> cases text .docsDescription <;> simp

/-- Metadata are empty just if no key says anything. -/
theorem ofKeys_eq_empty_iff {text : Field → Option String} {tags : Option (List String)}
    {deprecated : Option Bool} :
    ofKeys text tags deprecated = {} ↔ (∀ f, text f = none) ∧ tags = none ∧ deprecated = none := by
  constructor
  · intro h
    refine ⟨fun f => ?_, congrArg Metadata.tags h, congrArg Metadata.deprecated h⟩
    rw [← get_ofKeys text tags deprecated f, h]
    cases f <;> rfl
  · rintro ⟨htext, rfl, rfl⟩
    simp only [ofKeys, htext]

/-- The truth value at the start of a text. -/
def truth? (cs : List Char) : Option Bool :=
  if (dropWord? "true" cs).isSome then some true
  else if (dropWord? "false" cs).isSome then some false
  else none

/-- The truth value is the one behind its key. -/
theorem deprecatedHere?_eq (before : Option Char) (here : List Char) :
    deprecatedHere? here =
      (Key.deprecated.behind? before here).bind fun rest => truth? (skipBlanks rest) := by
  have hword : Key.deprecated.word = "deprecated:" := rfl
  rw [deprecatedHere?, Key.behind?, hword]
  cases dropWord? "deprecated:" here <;> rfl

/-- The trimmed value behind the first place where a key counts. -/
def value? (k : Key) (cs : List Char) : Option String :=
  firstMatch (fun before here => (k.behind? before here).bind fun rest =>
    (Note.valueHere? rest).map fun v => String.ofList (trim v.1)) none cs

theorem keyed?_eq_value? {k : Key} (hk : k.isWhole = true) (cs : List Char) :
    Note.keyed? k.word cs = value? k cs := by
  rw [Note.keyed?, value?]
  congr 1
  funext before here
  rw [Key.behind?, hk, Bool.true_and, Note.valueOf?]
  cases dropWord? k.word here with
  | none => exact ite_self none
  | some rest =>
    rw [Option.bind_some, Option.bind_some]
    split
    · rfl
    · exact Option.map_map ..

/-- A note is read key by key. -/
theorem ofNote_eq_ofKeys (content : String) :
    ofNote content =
      let cs := Note.expandLines content.toList
      ofKeys (fun f => value? (.text f) cs) ((value? .tags cs).map fun t => Note.listed t.toList)
        (firstMatch (fun before here => (Key.deprecated.behind? before here).bind fun rest =>
          truth? (skipBlanks rest)) none cs) := by
  have htruth : (fun (_ : Option Char) here => deprecatedHere? here) =
      fun before here => (Key.deprecated.behind? before here).bind fun rest =>
        truth? (skipBlanks rest) := by
    funext before here
    exact deprecatedHere?_eq before here
  dsimp only
  simp only [← keyed?_eq_value? (k := .tags) rfl, ← keyed?_eq_value? (k := .text _) rfl, ← htruth]
  rfl

end Metadata

/-! ## Where keys stand -/

namespace Note

/-- A key stands in a text, in any case: `before` comes before it and `after` behind its colon. -/
def StandsIn (key : String) (cs before after : List Char) : Prop :=
  ∃ spelling, isKeyword key spelling = true ∧ cs = before ++ (spelling ++ after)

/-- The key stands somewhere in the text. -/
def Names (key : String) (cs : List Char) : Prop :=
  ∃ before after, StandsIn key cs before after

variable {key : String} {cs before after : List Char}

theorem standsIn_iff :
    StandsIn key cs before after ↔
      ∃ here, cs = before ++ here ∧ dropWord? key here = some after := by
  constructor
  · rintro ⟨spelling, hspelling, rfl⟩
    exact ⟨spelling ++ after, rfl, dropWord?_eq_some_iff.2 ⟨spelling, hspelling, rfl⟩⟩
  · rintro ⟨here, rfl, hhere⟩
    obtain ⟨spelling, hspelling, rfl⟩ := dropWord?_eq_some_iff.1 hhere
    exact ⟨spelling, hspelling, rfl⟩

/-- A key that stands nowhere is found at no place. -/
theorem dropWord?_eq_none_of_not_names (h : ¬ Names key cs) {earlier here : List Char}
    (hcs : cs = earlier ++ here) : dropWord? key here = none := by
  cases hhere : dropWord? key here with
  | none => rfl
  | some after => exact absurd ⟨earlier, after, standsIn_iff.2 ⟨here, hcs, hhere⟩⟩ h

/-- Whether a key stands in a text can be tested at every place. -/
theorem not_names_of_tails (h : ∀ here ∈ cs.tails, dropWord? key here = none) : ¬ Names key cs := by
  rintro ⟨before, after, hstands⟩
  obtain ⟨here, rfl, hhere⟩ := standsIn_iff.1 hstands
  rw [h here ((List.mem_tails _ _).2 (List.suffix_append before here))] at hhere
  cases hhere

/-- A key has no value just where nothing but line feeds comes behind it. -/
theorem valueHere?_eq_none_iff : valueHere? cs = none ↔ ∀ c ∈ cs, c = '\n' := by
  rw [valueHere?]
  dsimp only
  constructor
  · intro h
    split at h
    · rw [Option.map_eq_none_iff, List.find?_eq_none] at h
      intro c hc
      simpa using h c (List.mem_reverse.2 hc)
    · cases h
  · intro h
    have hblank : skipBlanks cs = [] := skipBlanks_of_blank fun c hc => by
      rw [h c hc]
      rfl
    rw [hblank, List.isEmpty_nil, if_pos rfl, Option.map_eq_none_iff, List.find?_eq_none]
    intro c hc
    simpa using h c (List.mem_reverse.1 hc)

end Note

end SequenceApi
