import SequenceApi.Document.Wording

/-!
# What a check puts into words

The values of a document that its check puts into words are collected from lists of lists. Here they
are described by their places: names of schemas, paths, keys of path items, statuses of responses,
media types without a schema, places of parameters that are none, and names of optional parameters of
a path.

## Main definitions

* `Node.HasOperation`, `Node.HasResponse`, `Node.HasParameter`: the parts of a document
* `Node.Words`: a value that the check of a document puts into words

## Main results

* `Node.mem_worded_iff`: the values that are collected are those in these places
* `Node.isWordless_eq_false_iff`: when the check of a document can be put into words
-/

namespace SequenceApi.Node

/-! ## Parts of a document -/

/-- An entry of a mapping. -/
def HasEntry (n : Node) (k : Scalar) (m : Node) : Prop :=
  ∃ entries, n.entries? = some entries ∧ (k, m) ∈ entries

/-- A path item of a document. -/
def HasItem (document : Node) (path : Scalar) (item : Node) : Prop :=
  ∃ paths, document.get? "paths" = some paths ∧ paths.HasEntry path item

/-- An operation of a document: a mapping under a method of a path item. -/
def HasOperation (document o : Node) : Prop :=
  ∃ path item key, document.HasItem path item ∧ item.HasEntry key o ∧
    operationKeys.contains key.text = true ∧ o.isMap = true

/-- A parameter of an operation. -/
def HasParameter (o p : Node) : Prop :=
  ∃ mark items, o.get? "parameters" = some (.seq mark items) ∧ p ∈ items

/-- A response of an operation. -/
def HasResponse (o : Node) (status : Scalar) (r : Node) : Prop :=
  ∃ responses, o.get? "responses" = some responses ∧ responses.HasEntry status r

/-- A media type without a schema, in a response or a request body that is no reference. -/
def LacksSchema (n : Node) (mediaType : Scalar) : Prop :=
  n.isMap = true ∧ n.hasKey refKey = false ∧ ∃ content m, n.get? "content" = some content ∧
    content.HasEntry mediaType m ∧ m.isMap = true ∧ m.isGiven "schema" = false

/-! ## Places -/

/-- The values of a document that its check puts into words, each with its place. -/
inductive Words (document : Node) : Node → Prop where
  | schema {components schemas m : Node} {name : Scalar}
      (hcomponents : document.get? "components" = some components)
      (hschemas : components.get? "schemas" = some schemas) (h : schemas.HasEntry name m) :
      Words document (.scalar name)
  | path {path : Scalar} {item : Node} (h : document.HasItem path item) :
      Words document (.scalar path)
  | key {path key : Scalar} {item m : Node} (hitem : document.HasItem path item)
      (h : item.HasEntry key m) : Words document (.scalar key)
  | status {o r : Node} {status : Scalar} (ho : document.HasOperation o)
      (h : o.HasResponse status r) : Words document (.scalar status)
  | response {o r : Node} {status mediaType : Scalar} (ho : document.HasOperation o)
      (hr : o.HasResponse status r) (h : r.LacksSchema mediaType) :
      Words document (.scalar mediaType)
  | request {o b : Node} {mediaType : Scalar} (ho : document.HasOperation o)
      (hb : o.get? "requestBody" = some b) (h : b.LacksSchema mediaType) :
      Words document (.scalar mediaType)
  /-- The place of a parameter, if there is no such place. -/
  | place {o p within : Node} (ho : document.HasOperation o) (hp : o.HasParameter p)
      (h : p.get? "in" = some within) (hgiven : within.isTruthy = true)
      (hplace : isPlace within = false) : Words document within
  /-- The name of a parameter of the path that is optional. -/
  | name {o p name : Node} (ho : document.HasOperation o) (hp : o.HasParameter p)
      (hpath : p.get? "in" = some (.scalar (.str "path")))
      (hoptional : p.get? "required" = some (.scalar (.bool false)))
      (h : p.get? "name" = some name) : Words document name

variable {n m : Node}

theorem mem_entries_iff {o : Option Node} {e : Scalar × Node} :
    e ∈ (o.bind entries?).getD [] ↔ ∃ n, o = some n ∧ n.HasEntry e.1 e.2 := by
  cases o with
  | none => simp
  | some n =>
    cases hn : n.entries? with
    | none => simp [hn, HasEntry]
    | some entries => simp [hn, HasEntry]

theorem mem_wordedContent_iff {holder : Node} (hmap : holder.isMap = true)
    (href : holder.hasKey refKey = false) :
    m ∈ wordedContent (holder.get? "content") ↔ ∃ t, m = .scalar t ∧ holder.LacksSchema t := by
  rw [wordedContent, List.mem_filterMap]
  constructor
  · rintro ⟨e, he, hsome⟩
    obtain ⟨content, hcontent, hentry⟩ := mem_entries_iff.1 he
    split at hsome
    · next hlacks =>
      rw [Bool.and_eq_true, Bool.not_eq_true'] at hlacks
      obtain rfl := Option.some.inj hsome
      exact ⟨e.1, rfl, hmap, href, content, e.2, hcontent, hentry, hlacks⟩
    · cases hsome
  · rintro ⟨t, rfl, -, -, content, m, hcontent, hentry, hm, hnone⟩
    exact ⟨(t, m), mem_entries_iff.2 ⟨content, hcontent, hentry⟩, by simp [hm, hnone]⟩

theorem mem_wordedResponse_iff {status : Scalar} {r : Node} :
    m ∈ wordedResponse status r ↔
      m = .scalar status ∨ ∃ t, m = .scalar t ∧ r.LacksSchema t := by
  rw [wordedResponse, List.mem_cons]
  refine or_congr_right ?_
  split
  · next hself =>
    rw [Bool.and_eq_true, Bool.not_eq_true'] at hself
    exact mem_wordedContent_iff hself.1 hself.2
  · next hself =>
    refine iff_of_false List.not_mem_nil ?_
    rintro ⟨t, -, hmap, href, -⟩
    exact hself (by simp [hmap, href])

theorem any_isFalse_iff {o : Option Node} :
    o.any isFalse = true ↔ o = some (.scalar (.bool false)) := by
  rw [Option.any_eq_true]
  constructor
  · rintro ⟨n, rfl, hn⟩
    unfold isFalse at hn
    split at hn
    · next b =>
      obtain rfl : b = false := by simpa using hn
      rfl
    · cases hn
  · rintro rfl
    exact ⟨_, rfl, rfl⟩

theorem str?_eq_some_iff {s : String} : n.str? = some s ↔ n = .scalar (.str s) := by
  constructor
  · intro h
    unfold str? at h
    split at h
    · rw [Option.some.inj h]
    · cases h
  · rintro rfl
    rfl

theorem mem_wordedParameter_iff {p : Node} :
    m ∈ wordedParameter p ↔
      (p.get? "in" = some m ∧ m.isTruthy = true ∧ isPlace m = false) ∨
        (p.get? "in" = some (.scalar (.str "path")) ∧
          p.get? "required" = some (.scalar (.bool false)) ∧ p.get? "name" = some m) := by
  rw [wordedParameter]
  cases hin : p.get? "in" with
  | none => simp
  | some within =>
    dsimp only
    rw [List.mem_append]
    -- the place is put into words if there is none such, the name if the parameter is optional
    refine or_congr ?_ ?_
    · split
      · next hbad =>
        rw [Bool.and_eq_true, Bool.not_eq_true'] at hbad
        rw [List.mem_singleton, Option.some_inj]
        refine ⟨?_, fun h => h.1.symm⟩
        rintro rfl
        exact ⟨rfl, hbad⟩
      · next hbad =>
        refine iff_of_false List.not_mem_nil ?_
        rintro ⟨heq, hgiven, hplace⟩
        obtain rfl := Option.some.inj heq
        exact hbad (by simp [hgiven, hplace])
    · rw [Option.some_inj, ← str?_eq_some_iff, ← any_isFalse_iff, ← and_assoc]
      split
      · next hoptional =>
        rw [Bool.and_eq_true, decide_eq_true_iff] at hoptional
        simp [hoptional]
      · next hoptional =>
        rw [Bool.and_eq_true, decide_eq_true_iff] at hoptional
        exact iff_of_false List.not_mem_nil fun h => hoptional h.1

/-! ## Documents -/

theorem mem_items_iff {o p : Node} :
    p ∈ ((o.get? "parameters").map items).getD [] ↔ o.HasParameter p := by
  rw [HasParameter]
  cases o.get? "parameters" with
  | none => simp
  | some ps =>
    cases ps with
    | seq mark ns =>
      refine ⟨fun hp => ⟨mark, ns, rfl, hp⟩, ?_⟩
      rintro ⟨_, _, heq, hp⟩
      cases heq
      exact hp
    | _ => simp [items]

theorem mem_wordedOperation_iff {o : Node} :
    m ∈ wordedOperation o ↔
      (∃ status r, o.HasResponse status r ∧ m ∈ wordedResponse status r) ∨
        (∃ b t, o.get? "requestBody" = some b ∧ b.LacksSchema t ∧ m = .scalar t) ∨
          ∃ p, o.HasParameter p ∧ m ∈ wordedParameter p := by
  rw [wordedOperation, List.mem_append, List.mem_append, or_assoc]
  refine or_congr ?_ (or_congr ?_ ?_)
  · rw [List.mem_flatMap]
    constructor
    · rintro ⟨e, he, hm⟩
      exact ⟨e.1, e.2, mem_entries_iff.1 he, hm⟩
    · rintro ⟨status, r, hr, hm⟩
      exact ⟨(status, r), mem_entries_iff.2 hr, hm⟩
  · rw [List.mem_flatMap]
    constructor
    · rintro ⟨b, hb, hm⟩
      obtain ⟨hb, hself⟩ := Option.filter_eq_some_iff.1 (Option.mem_toList.1 hb)
      rw [Bool.and_eq_true, Bool.not_eq_true'] at hself
      obtain ⟨t, rfl, ht⟩ := (mem_wordedContent_iff hself.1 hself.2).1 hm
      exact ⟨b, t, hb, ht, rfl⟩
    · rintro ⟨b, t, hb, ht, rfl⟩
      have hself : (b.isMap && !b.hasKey refKey) = true := by simp [ht.1, ht.2.1]
      refine ⟨b, Option.mem_toList.2 (Option.filter_eq_some_iff.2 ⟨hb, hself⟩), ?_⟩
      exact (mem_wordedContent_iff ht.1 ht.2.1).2 ⟨t, rfl, ht⟩
  · simp only [List.mem_flatMap, mem_items_iff]

theorem mem_wordedItem_iff {key : Scalar} {o : Node} :
    m ∈ wordedItem key o ↔
      m = .scalar key ∨
        operationKeys.contains key.text = true ∧ o.isMap = true ∧ m ∈ wordedOperation o := by
  rw [wordedItem, List.mem_cons]
  refine or_congr_right ?_
  rw [← and_assoc, ← Bool.and_eq_true]
  split
  · next h => exact (and_iff_right h).symm
  · next h => exact iff_of_false List.not_mem_nil fun hm => h hm.1

/-- A value that the operations of a document put into words. -/
theorem HasOperation.words {o : Node} (ho : n.HasOperation o) (hm : m ∈ wordedOperation o) :
    n.Words m := by
  rcases mem_wordedOperation_iff.1 hm with ⟨status, r, hr, hm⟩ | ⟨b, t, hb, ht, rfl⟩ | ⟨p, hp, hm⟩
  · rcases mem_wordedResponse_iff.1 hm with rfl | ⟨t, rfl, ht⟩
    · exact .status ho hr
    · exact .response ho hr ht
  · exact .request ho hb ht
  · rcases mem_wordedParameter_iff.1 hm with ⟨hin, hgiven, hplace⟩ | ⟨hin, hoptional, hname⟩
    · exact .place ho hp hin hgiven hplace
    · exact .name ho hp hin hoptional hname

theorem mem_worded_of_hasOperation {o : Node} (ho : n.HasOperation o) (hm : m ∈ wordedOperation o) :
    m ∈ n.worded := by
  obtain ⟨path, item, key, hitem, hkey, hmethod, hmap⟩ := ho
  refine List.mem_append_right _ (List.mem_flatMap.2 ⟨(path, item), mem_entries_iff.2 hitem, ?_⟩)
  refine List.mem_cons_of_mem _ (List.mem_flatMap.2 ⟨(key, o), ?_, ?_⟩)
  · exact mem_entries_iff (o := some item) |>.2 ⟨item, rfl, hkey⟩
  · exact mem_wordedItem_iff.2 (.inr ⟨hmethod, hmap, hm⟩)

/-- The values that are collected are those in the places of words. -/
theorem mem_worded_iff : m ∈ n.worded ↔ n.Words m := by
  constructor
  · -- from the lists to the places, from outside in
    intro hm
    rcases List.mem_append.1 hm with hm | hm
    · obtain ⟨e, he, rfl⟩ := List.mem_map.1 hm
      obtain ⟨schemas, hschemas, hentry⟩ := mem_entries_iff.1 he
      obtain ⟨components, hcomponents, hschemas⟩ := Option.bind_eq_some_iff.1 hschemas
      exact .schema hcomponents hschemas hentry
    · obtain ⟨e, he, hm⟩ := List.mem_flatMap.1 hm
      have hitem : n.HasItem e.1 e.2 := mem_entries_iff.1 he
      rcases List.mem_cons.1 hm with rfl | hm
      · exact .path hitem
      · obtain ⟨e', he', hm⟩ := List.mem_flatMap.1 hm
        obtain ⟨item, heq, hkey⟩ := mem_entries_iff (o := some e.2) |>.1 he'
        obtain rfl := Option.some.inj heq
        rcases mem_wordedItem_iff.1 hm with rfl | ⟨hmethod, hmap, hm⟩
        · exact .key hitem hkey
        · exact HasOperation.words ⟨e.1, e.2, e'.1, hitem, hkey, hmethod, hmap⟩ hm
  · intro h
    cases h with
    | schema hcomponents hschemas h =>
      refine List.mem_append_left _ (List.mem_map.2 ⟨(_, _), mem_entries_iff.2 ⟨_, ?_, h⟩, rfl⟩)
      rw [hcomponents, Option.bind_some, hschemas]
    | path h =>
      refine List.mem_append_right _ (List.mem_flatMap.2 ⟨(_, _), mem_entries_iff.2 h, ?_⟩)
      exact List.mem_cons_self
    | @key path key item m hitem h =>
      refine List.mem_append_right _ (List.mem_flatMap.2 ⟨(_, _), mem_entries_iff.2 hitem, ?_⟩)
      refine List.mem_cons_of_mem _ (List.mem_flatMap.2 ⟨(key, m), ?_, List.mem_cons_self⟩)
      exact mem_entries_iff (o := some item) |>.2 ⟨item, rfl, h⟩
    | status ho h =>
      refine mem_worded_of_hasOperation ho (mem_wordedOperation_iff.2 (.inl ⟨_, _, h, ?_⟩))
      exact mem_wordedResponse_iff.2 (.inl rfl)
    | response ho hr h =>
      refine mem_worded_of_hasOperation ho (mem_wordedOperation_iff.2 (.inl ⟨_, _, hr, ?_⟩))
      exact mem_wordedResponse_iff.2 (.inr ⟨_, rfl, h⟩)
    | request ho hb h =>
      refine mem_worded_of_hasOperation ho (mem_wordedOperation_iff.2 (.inr (.inl ?_)))
      exact ⟨_, _, hb, h, rfl⟩
    | place ho hp h hgiven hplace =>
      refine mem_worded_of_hasOperation ho (mem_wordedOperation_iff.2 (.inr (.inr ⟨_, hp, ?_⟩)))
      exact mem_wordedParameter_iff.2 (.inl ⟨h, hgiven, hplace⟩)
    | name ho hp hpath hoptional h =>
      refine mem_worded_of_hasOperation ho (mem_wordedOperation_iff.2 (.inr (.inr ⟨_, hp, ?_⟩)))
      exact mem_wordedParameter_iff.2 (.inr ⟨hpath, hoptional, h⟩)

/-- The check of a document can be put into words if no word has too many digits. -/
theorem isWordless_eq_false_iff : n.isWordless = false ↔ ∀ m, n.Words m → m.isLong = false := by
  simp only [isWordless, List.any_eq_false, mem_worded_iff, Bool.not_eq_true]

end SequenceApi.Node
