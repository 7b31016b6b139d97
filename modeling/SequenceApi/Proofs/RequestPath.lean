import SequenceApi.Proofs.Text.Search
import SequenceApi.RequestPath

/-!
# Written request paths

A request path is put together from a template and a query. The template has literal pieces and
placeholders, in any order and number, and the query has pairs of a key and a value. What is put
together in this way is taken apart in the same way: the first question mark ends the template, the
ampersands part the pairs, the first equals sign of a pair ends its key, and braces enclose the
placeholders. So each pair is a parameter of the query, and each placeholder one of the path.

## Main definitions

* `RequestPath.Segment`: a literal piece or a placeholder
* `RequestPath.Pair`: a key and a value
* `RequestPath.written`: the path of a template and a query

## Main results

* `RequestPath.groups_templateText`: the placeholders of a template
* `RequestPath.queryParameters_queryText`: the pairs of a query
* `RequestPath.parameters_written`: what is put together is taken apart
-/

namespace SequenceApi.RequestPath

open Text

/-! ## Templates -/

/-- A text that can be a piece of a template: it holds no braces and no question mark. -/
structure IsPlain (cs : List Char) : Prop where
  opening : '\x7b' ∉ cs
  closing : '\x7d' ∉ cs
  query : '?' ∉ cs

instance (cs : List Char) : Decidable (IsPlain cs) :=
  decidable_of_iff ('\x7b' ∉ cs ∧ '\x7d' ∉ cs ∧ '?' ∉ cs)
    ⟨fun ⟨h, h', h''⟩ => ⟨h, h', h''⟩, fun h => ⟨h.opening, h.closing, h.query⟩⟩

/-- A piece of a template. -/
inductive Segment where
  /-- A text that stands for itself. -/
  | literal (s : String) (h : IsPlain s.toList)
  /-- A name in braces. -/
  | placeholder (name : String) (h : IsPlain name.toList) (hne : name ≠ "")

namespace Segment

/-- The text of a piece. -/
def text : Segment → String
  | literal s _ => s
  | placeholder name _ _ => "\x7b" ++ name ++ "\x7d"

/-- The name of a placeholder. -/
def name? : Segment → Option String
  | literal _ _ => none
  | placeholder name _ _ => some name

theorem query_notMem_text (s : Segment) : '?' ∉ s.text.toList := by
  cases s with
  | literal s h => exact h.query
  | placeholder name h _ => simp [text, h.query]

end Segment

/-- The template of some pieces. -/
def templateText (segments : List Segment) : String :=
  String.join (segments.map Segment.text)

theorem query_notMem_templateText (segments : List Segment) :
    '?' ∉ (templateText segments).toList := by
  rw [templateText, String.toList_join, List.mem_flatMap]
  rintro ⟨text, htext, hmem⟩
  obtain ⟨s, -, rfl⟩ := List.mem_map.1 htext
  exact s.query_notMem_text hmem

theorem toList_templateText_cons (s : Segment) (segments : List Segment) :
    (templateText (s :: segments)).toList = s.text.toList ++ (templateText segments).toList := by
  rw [templateText, templateText, String.toList_join, String.toList_join, List.map_cons,
    List.flatMap_cons]

/-- No group begins with another character than an opening brace. -/
theorem groupHere?_of_ne {c : Char} (h : c ≠ '\x7b') (cs : List Char) :
    groupHere? (c :: cs) = none := by
  unfold groupHere?
  split
  · next heq => exact absurd (List.cons.inj heq).1 h
  · rfl

/-- A group is the name up to the closing brace. -/
theorem groupHere?_group {name : List Char} (hne : name ≠ []) (hclosing : '\x7d' ∉ name)
    (rest : List Char) :
    groupHere? ('\x7b' :: (name ++ '\x7d' :: rest)) = some (name, name.length + 2) := by
  have hempty : name.isEmpty = false := List.isEmpty_eq_false_iff.2 hne
  simp only [groupHere?, cut_append_of_not_mem hclosing, hempty, Bool.false_eq_true, if_false]

/-- The groups of a template are its placeholders. -/
theorem groups_templateText (segments : List Segment) :
    groups (templateText segments).toList =
      (segments.filterMap Segment.name?).map String.toList := by
  -- Induction on the pieces: a literal piece is passed over, and a placeholder is found.
  induction segments with
  | nil => rfl
  | cons s segments ih =>
    rw [groups] at ih ⊢
    rw [toList_templateText_cons]
    cases s with
    | literal s h =>
      rw [Segment.text, allMatches_append, ih]
      · rfl
      · intro earlier here heq hne
        obtain ⟨c, cs, rfl⟩ := List.exists_cons_of_ne_nil hne
        apply groupHere?_of_ne
        rintro rfl
        exact h.opening (by rw [heq]; simp)
    | placeholder name h hne =>
      have htext : (Segment.placeholder name h hne).text.toList ++ (templateText segments).toList =
          '\x7b' :: (name.toList ++ '\x7d' :: (templateText segments).toList) := by
        simp [Segment.text]
      have hname : name.toList ≠ [] := by simpa using hne
      have hdrop : ('\x7b' :: (name.toList ++ '\x7d' :: (templateText segments).toList)).drop
          (name.toList.length + 2) = (templateText segments).toList := by
        rw [List.drop_succ_cons, List.drop_append, List.drop_eq_nil_of_le (by omega)]
        simp
      rw [htext, allMatches_of_some (groupHere?_group hname h.closing _), hdrop, ih]
      rfl

/-! ## Queries -/

/-- A pair of a query. The value may hold equals signs and question marks. -/
structure Pair where
  key : String
  value : String
  key_ne : key ≠ ""
  key_plain : '&' ∉ key.toList ∧ '=' ∉ key.toList
  value_plain : '&' ∉ value.toList

namespace Pair

/-- The text of a pair. -/
def text (p : Pair) : String :=
  p.key ++ "=" ++ p.value

/-- The parameter of a pair, with the value as its example. -/
def parameter (p : Pair) : Parameter :=
  .query p.key p.value

theorem toList_text (p : Pair) : p.text.toList = p.key.toList ++ '=' :: p.value.toList := by
  simp [text]

theorem separator_notMem_text (p : Pair) : '&' ∉ p.text.toList := by
  simp [text, p.key_plain.1, p.value_plain]

/-- A pair is cut at its first equals sign. -/
theorem pairParameter?_text (p : Pair) : pairParameter? p.text.toList = some p.parameter := by
  have hkey : p.key.toList.isEmpty = false := by simpa using p.key_ne
  rw [toList_text, pairParameter?, cut_append_of_not_mem p.key_plain.2]
  simp [hkey, parameter]

end Pair

/-- The query of some pairs. -/
def queryText (pairs : List Pair) : String :=
  joined "&" (pairs.map Pair.text)

theorem pieces_queryText {pairs : List Pair} (hne : pairs ≠ []) :
    pieces '&' (queryText pairs).toList = pairs.map fun p => p.text.toList := by
  have hmap : pairs.map Pair.text ≠ [] := by simpa using hne
  have hplain : ∀ text ∈ pairs.map Pair.text, '&' ∉ text.toList := by
    intro text htext
    obtain ⟨p, -, rfl⟩ := List.mem_map.1 htext
    exact p.separator_notMem_text
  have hpieces : pieces '&' (queryText pairs).toList = (pairs.map Pair.text).map String.toList :=
    @pieces_joined '&' _ hmap hplain
  rw [hpieces, List.map_map]
  rfl

/-- Each pair of a query is a parameter, in order. -/
theorem queryParameters_queryText (pairs : List Pair) :
    queryParameters (queryText pairs).toList = pairs.map Pair.parameter := by
  by_cases hne : pairs = []
  · rw [hne]
    rfl
  · have hpieces := pieces_queryText hne
    have hempty : (queryText pairs).toList.isEmpty = false := by
      cases pairs with
      | nil => exact absurd rfl hne
      | cons p pairs =>
        -- an empty query has one piece, which is no pair
        apply List.isEmpty_eq_false_iff.2
        intro hnil
        rw [hnil, List.map_cons, p.toList_text] at hpieces
        have hpiece := (List.cons.inj hpieces).1
        simp at hpiece
    rw [queryParameters, hempty, hpieces, List.filterMap_map]
    -- every pair has a key, and so none is left out
    have hall : pairParameter? ∘ (fun p : Pair => p.text.toList) = fun p => some p.parameter :=
      funext Pair.pairParameter?_text
    rw [hall, List.filterMap_eq_map']
    rfl

/-! ## Paths -/

/-- The path of a template and a query. -/
def written (segments : List Segment) (pairs : List Pair) : String :=
  templateText segments ++ "?" ++ queryText pairs

/-- The first question mark is the one between the template and the query. -/
theorem cut_written (segments : List Segment) (pairs : List Pair) :
    cut '?' (written segments pairs).toList =
      ((templateText segments).toList, some (queryText pairs).toList) := by
  have hwritten : (written segments pairs).toList =
      (templateText segments).toList ++ '?' :: (queryText pairs).toList := by
    simp [written]
  rw [hwritten, cut_append_of_not_mem (query_notMem_templateText segments)]

/-- What is put together is taken apart: the template, a parameter of the query for each pair with
the value as its example, and behind these a required parameter of the path for each
placeholder. -/
theorem parameters_written (segments : List Segment) (pairs : List Pair) :
    template (written segments pairs) = templateText segments ∧
      parameters (written segments pairs) =
        (pairs.map fun p => .query p.key p.value) ++
          (segments.filterMap Segment.name?).map .path ∧
      (parameters (written segments pairs)).map Parameter.toJson =
        (pairs.map fun p => .obj [("name", .str p.key), ("in", .str "query"),
          ("schema", .obj [("type", .str "string"), ("example", .str p.value)])]) ++
        (segments.filterMap Segment.name?).map fun name =>
          .obj [("name", .str name), ("in", .str "path"), ("required", .bool true),
            ("schema", .obj [("type", .str "string")])] := by
  have hparameters : parameters (written segments pairs) =
      (pairs.map fun p => .query p.key p.value) ++
        (segments.filterMap Segment.name?).map .path := by
    rw [parameters, queryChars, templateChars, cut_written, Option.getD_some,
      queryParameters_queryText, groups_templateText, List.map_map]
    congr 2
    funext name
    rw [Function.comp_apply, String.ofList_toList]
  refine ⟨?_, hparameters, ?_⟩
  · rw [template, templateChars, cut_written, String.ofList_toList]
  · rw [hparameters, List.map_append, List.map_map, List.map_map]
    rfl

/-- A template with placeholders side by side, one of them twice. -/
def repeatedSegments : List Segment :=
  [.literal "/a/" (by decide), .placeholder "b" (by decide) (by decide),
    .placeholder "c" (by decide) (by decide), .literal "/" (by decide),
    .placeholder "b" (by decide) (by decide)]

/-- A query with two values for one key: a value with an equals sign and a question mark, and an
empty one. -/
def repeatedPairs : List Pair :=
  [⟨"k", "v=?", by decide, by decide, by decide⟩, ⟨"k", "", by decide, by decide, by decide⟩]

/-- Nothing is merged. -/
theorem parameters_written_of_repeated :
    written repeatedSegments repeatedPairs = "/a/\x7bb\x7d\x7bc\x7d/\x7bb\x7d?k=v=?&k=" ∧
      template "/a/\x7bb\x7d\x7bc\x7d/\x7bb\x7d?k=v=?&k=" = "/a/\x7bb\x7d\x7bc\x7d/\x7bb\x7d" ∧
      parameters "/a/\x7bb\x7d\x7bc\x7d/\x7bb\x7d?k=v=?&k=" =
        [.query "k" "v=?", .query "k" "", .path "b", .path "c", .path "b"] := by
  have hwritten : written repeatedSegments repeatedPairs =
      "/a/\x7bb\x7d\x7bc\x7d/\x7bb\x7d?k=v=?&k=" := by decide
  obtain ⟨htemplate, hparameters, -⟩ := parameters_written repeatedSegments repeatedPairs
  rw [hwritten] at htemplate hparameters
  exact ⟨hwritten, htemplate.trans (by decide), hparameters⟩

end SequenceApi.RequestPath
