import SequenceApi.Proofs.Document.OwnIssues

/-!
# What several services are told

The check of services goes through the documents once and keeps a table of who uses which operation
identifier. What that table holds in the end can be said without it: under each identifier stand the
services with an operation of that name, in the order of the map, each once. So two services with
one identifier are named together in one error, and a service may use its own identifiers as often
as it likes. The order of the services shows in the order of the issues and of the names in them,
and nowhere else.

An identifier counts in an operation, which is a mapping under the key of a method. A service lacks
operations if no path item has a key of a method at all, whatever stands under it.

## Main definitions

* `Json.UsesId`, `Json.IsIdle`: documents with an operation identifier, and without operations
* `Services.users`, `Services.idle`: the services of a map with such documents
* `Services.IsExact`: a report that has one issue for each shared identifier and each idle service
* `Services.SameReport`: reports that differ in the order of issues and of names

## Main results

* `Services.services_owners`: what the table holds
* `Services.check_ofFields`: the whole report
* `Services.check_exact`: when services are valid, what they are told, and that order is immaterial
-/

namespace SequenceApi

open Text

/-! ## Operations of a document -/

namespace Json

/-- An operation of the document has the identifier, which is not empty. -/
def UsesId (v : Json) (id : String) : Prop :=
  id ≠ "" ∧ ∃ paths, v.get? "paths" = some (.obj paths) ∧
    ∃ e ∈ paths, ∃ m ∈ operationKeys, ∃ operation,
      e.2.get? m = some (.obj operation) ∧ Table.find "operationId" operation = some (.str id)

/-- The document has paths, but no path item with a key of an operation. -/
def IsIdle (v : Json) : Prop :=
  ∃ paths, v.get? "paths" = some (.obj paths) ∧
    ∀ e ∈ paths, ∀ m ∈ operationKeys, e.2.get? m = none

end Json

namespace Services

theorem mem_operations_iff {paths : List (Scalar × Node)} {o : Node} :
    o ∈ operations paths ↔
      ∃ e ∈ paths, ∃ m ∈ operationKeys, e.2.get? m = some o ∧ o.isMap = true := by
  simp only [operations, List.mem_flatMap, List.mem_filter, List.mem_filterMap]
  constructor
  · rintro ⟨e, he, ⟨m, hm, ho⟩, hmap⟩
    exact ⟨e, he, m, hm, ho, hmap⟩
  · rintro ⟨e, he, m, hm, ho, hmap⟩
    exact ⟨e, he, ⟨m, hm, ho⟩, hmap⟩

theorem mem_operationIds_iff {document : Node} {id : String} :
    id ∈ operationIds document ↔ id ≠ "" ∧ ∃ o ∈ operations (document.paths?.getD []),
      o.get? "operationId" = some (.scalar (.str id)) := by
  have hstr : ∀ n : Node, n.str? = some id ↔ n = .scalar (.str id) := by
    intro n
    constructor
    · intro h
      unfold Node.str? at h
      split at h
      · rw [Option.some.inj h]
      · cases h
    · rintro rfl
      rfl
  simp only [operationIds, List.mem_filterMap, Option.filter_eq_some_iff, Option.bind_eq_some_iff,
    hstr, bne_iff_ne]
  constructor
  · rintro ⟨o, ho, ⟨n, hn, rfl⟩, hid⟩
    exact ⟨hid, o, ho, hn⟩
  · rintro ⟨hid, o, ho, hn⟩
    exact ⟨o, ho, ⟨_, hn, rfl⟩, hid⟩

theorem paths?_ofJson (v : Json) :
    (Node.ofJson v).paths? = ((v.get? "paths").bind fun p => (Node.ofJson p).entries?) := by
  rw [Node.paths?, Node.get?_ofJson, Option.bind_map]
  rfl

/-- The paths of a JSON document are an object. -/
theorem paths?_ofJson_eq_some_iff {v : Json} {entries : List (Scalar × Node)} :
    (Node.ofJson v).paths? = some entries ↔
      ∃ paths, v.get? "paths" = some (.obj paths) ∧ entries = Node.ofFields paths := by
  rw [paths?_ofJson, Option.bind_eq_some_iff]
  constructor
  · rintro ⟨p, hp, hentries⟩
    cases p with
    | obj paths => exact ⟨paths, hp, (Option.some.inj hentries).symm⟩
    | _ => cases hentries
  · rintro ⟨paths, hp, rfl⟩
    exact ⟨.obj paths, hp, rfl⟩

theorem ofJson_eq_map_iff {v : Json} :
    (Node.ofJson v).isMap = true ↔ ∃ fields, v = .obj fields := by
  cases v <;> simp [Node.ofJson, Node.isMap]

theorem mem_operationIds_ofJson {v : Json} {id : String} :
    id ∈ operationIds (Node.ofJson v) ↔ v.UsesId id := by
  rw [mem_operationIds_iff, Json.UsesId]
  refine and_congr_right fun _ => ?_
  constructor
  · rintro ⟨o, ho, hid⟩
    obtain ⟨e', he', m, hm, ho, hmap⟩ := mem_operations_iff.1 ho
    cases hpaths : (Node.ofJson v).paths? with
    | none =>
      rw [hpaths] at he'
      cases he'
    | some entries =>
      obtain ⟨paths, hp, rfl⟩ := paths?_ofJson_eq_some_iff.1 hpaths
      rw [hpaths, Option.getD_some, Node.ofFields_eq_map] at he'
      obtain ⟨e, he, rfl⟩ := List.mem_map.1 he'
      rw [Node.get?_ofJson, Option.map_eq_some_iff] at ho
      obtain ⟨w, hw, rfl⟩ := ho
      obtain ⟨operation, rfl⟩ := ofJson_eq_map_iff.1 hmap
      rw [Node.get?_ofJson, Option.map_eq_some_iff] at hid
      obtain ⟨x, hx, hid⟩ := hid
      cases x with
      | str s =>
        obtain rfl : s = id := by simpa [Node.ofJson] using hid
        exact ⟨paths, hp, e, he, m, hm, operation, hw, hx⟩
      | _ => simp [Node.ofJson] at hid
  · rintro ⟨paths, hp, e, he, m, hm, operation, ho, hid⟩
    refine ⟨Node.ofJson (.obj operation), mem_operations_iff.2 ?_, ?_⟩
    · rw [paths?_ofJson_eq_some_iff.2 ⟨paths, hp, rfl⟩, Option.getD_some, Node.ofFields_eq_map]
      refine ⟨_, List.mem_map_of_mem he, m, hm, ?_, rfl⟩
      rw [Node.get?_ofJson, ho]
      rfl
    · have hget : (Json.obj operation).get? "operationId" = some (.str id) := hid
      rw [Node.get?_ofJson, hget]
      rfl

theorem hasOperationKey_eq_false_iff {paths : List (Scalar × Node)} :
    hasOperationKey paths = false ↔ ∀ e ∈ paths, ∀ m ∈ operationKeys, e.2.get? m = none := by
  simp only [hasOperationKey, Node.hasKey, List.any_eq_false, List.any_eq_true, not_exists,
    not_and, Option.not_isSome_iff_eq_none]

theorem lacksOperations_ofJson {v : Json} :
    lacksOperations (Node.ofJson v) = true ↔ v.IsIdle := by
  rw [lacksOperations, Option.any_eq_true, Json.IsIdle]
  simp only [Bool.not_eq_true', hasOperationKey_eq_false_iff, paths?_ofJson_eq_some_iff]
  constructor
  · rintro ⟨entries, ⟨paths, hp, rfl⟩, hnone⟩
    refine ⟨paths, hp, fun e he m hm => ?_⟩
    rw [Node.ofFields_eq_map] at hnone
    have h := hnone _ (List.mem_map_of_mem he) m hm
    rwa [Node.get?_ofJson, Option.map_eq_none_iff] at h
  · rintro ⟨paths, hp, hnone⟩
    refine ⟨_, ⟨paths, hp, rfl⟩, fun e' he' m hm => ?_⟩
    rw [Node.ofFields_eq_map] at he'
    obtain ⟨e, he, rfl⟩ := List.mem_map.1 he'
    rw [Node.get?_ofJson, hnone e he m hm]
    rfl

end Services

instance Json.decidableUsesId (v : Json) (id : String) : Decidable (v.UsesId id) :=
  decidable_of_iff _ Services.mem_operationIds_ofJson

instance Json.decidableIsIdle (v : Json) : Decidable v.IsIdle :=
  decidable_of_iff _ Services.lacksOperations_ofJson

namespace Services

/-! ## The table of identifiers -/

/-- The services that use an identifier, in order. -/
def users (documents : Table String Json) (id : String) : List String :=
  Table.keys (documents.filter fun e => e.2.UsesId id)

theorem mem_users_iff {documents : Table String Json} {id name : String} :
    name ∈ users documents id ↔ ∃ v, (name, v) ∈ documents ∧ v.UsesId id := by
  simp [users, Table.keys]

theorem users_concat (documents : Table String Json) (e : String × Json) (id : String) :
    users (documents ++ [e]) id = users documents id ++ if e.2.UsesId id then [e.1] else [] := by
  by_cases h : e.2.UsesId id <;> simp [users, Table.keys, h]

/-- The services with paths, but without operations, in order. -/
def idle (documents : Table String Json) : List String :=
  Table.keys (documents.filter fun e => e.2.IsIdle)

/-- The services under an identifier. -/
def Owners.services (owners : Owners) (id : String) : List Scalar :=
  (Table.find id owners).getD []

theorem Owners.services_add (owners : Owners) (s : Scalar) (id id' : String) :
    (owners.add s id).services id' =
      if id' = id ∧ s ∉ owners.services id' then owners.services id' ++ [s]
      else owners.services id' := by
  rw [services, add]
  rcases eq_or_ne id' id with rfl | hne
  · rw [Table.find_put_self, Option.getD_some]
    by_cases hs : s ∈ (Table.find id' owners).getD []
    · simp [services, hs]
    · simp [services, hs]
  · rw [Table.find_put_of_ne hne, if_neg fun h => hne h.1]
    rfl

/-- All identifiers of one service: each of them gets the service, unless it has it already. -/
theorem Owners.services_addAll (s : Scalar) (ids : List String) (owners : Owners) (id : String) :
    (ids.foldl (fun o id => o.add s id) owners).services id =
      if id ∈ ids ∧ s ∉ owners.services id then owners.services id ++ [s]
      else owners.services id := by
  induction ids generalizing owners with
  | nil => simp
  | cons i ids ih =>
    rw [List.foldl_cons, ih, services_add]
    by_cases hs : s ∈ owners.services id
    · simp [hs]
    · by_cases hi : id = i
      · -- the service has come in, and does not come in again
        subst hi
        simp [hs]
      · simp [hs, hi]

/-- Under an identifier stand the services that use it. -/
theorem services_owners {documents : Table String Json} (hd : documents.Distinct) (id : String) :
    (owners (Node.ofFields documents)).services id = (users documents id).map .str := by
  rw [owners, Node.ofFields_eq_map, List.foldl_map]
  -- Induction on the documents from the last one, whose service is not in the table yet.
  induction documents using List.reverseRecOn with
  | nil => rfl
  | append_singleton documents e ih =>
    have hkeys : Table.keys (documents ++ [e]) = Table.keys documents ++ [e.1] := List.map_append
    rw [Table.Distinct, hkeys, List.nodup_append] at hd
    obtain ⟨hd, -, hnew⟩ := hd
    have hfresh : (.str e.1 : Scalar) ∉ (users documents id).map Scalar.str := by
      intro hmem
      obtain ⟨name, hname, heq⟩ := List.mem_map.1 hmem
      obtain rfl := Scalar.str.inj heq
      obtain ⟨v, hv, -⟩ := mem_users_iff.1 hname
      have hkey : e.1 ∈ Table.keys documents := List.mem_map.2 ⟨_, hv, rfl⟩
      exact hnew e.1 hkey e.1 (List.mem_singleton_self e.1) rfl
    rw [List.foldl_append, List.foldl_cons, List.foldl_nil, Owners.services_addAll, ih hd,
      users_concat]
    by_cases huses : e.2.UsesId id
    · rw [if_pos ⟨mem_operationIds_ofJson.2 huses, hfresh⟩, if_pos huses, List.map_append]
      rfl
    · rw [if_neg fun h => huses (mem_operationIds_ofJson.1 h.1), if_neg huses, List.append_nil]

/-! ## The report -/

/-- The issue about an identifier that several services use. -/
def sharedIssue (id : String) (names : List String) : Issue :=
  Objection.issue ⟨some (joined " and " names), .sharedId id⟩

/-- The identifiers that several services use, in the order in which they come. -/
def sharedNames (documents : Table String Json) : List String :=
  Table.keys ((owners (Node.ofFields documents)).filter fun e => 1 < e.2.length)

/-- The errors of the documents, each in its service. -/
def ownErrors (documents : Table String Json) : List Issue :=
  documents.flatMap fun e => (Node.ofJson e.2).check.errors.map (Issue.inService (.str e.1))

/-- The warnings of the documents, each in its service, and those about idle services. -/
def ownWarnings (documents : Table String Json) : List Issue :=
  documents.flatMap fun e => (Node.ofJson e.2).check.warnings.map (Issue.inService (.str e.1)) ++
    if e.2.IsIdle then [noOperations (.str e.1)] else []

/-- The errors about shared identifiers. -/
def sharedIssues (documents : Table String Json) : List Issue :=
  (sharedNames documents).map fun id => sharedIssue id (users documents id)

theorem eq_users_of_mem_owners {documents : Table String Json} (hd : documents.Distinct)
    {entry : String × List Scalar} (h : entry ∈ owners (Node.ofFields documents)) :
    entry.2 = (users documents entry.1).map .str := by
  have hservices := services_owners hd entry.1
  have hfind := (record_owners (Node.ofFields documents)).distinct.find_of_mem h
  rwa [Owners.services, hfind, Option.getD_some] at hservices

theorem nodup_sharedNames (documents : Table String Json) : (sharedNames documents).Nodup :=
  (record_owners (Node.ofFields documents)).distinct.sublist
    (List.filter_sublist.map Prod.fst)

/-- An identifier is shared if more than one service uses it. -/
theorem mem_sharedNames_iff {documents : Table String Json} (hd : documents.Distinct)
    {id : String} : id ∈ sharedNames documents ↔ 1 < (users documents id).length := by
  constructor
  · intro h
    obtain ⟨entry, hentry, rfl⟩ := List.mem_map.1 h
    obtain ⟨hmem, hlen⟩ := List.mem_filter.1 hentry
    rw [decide_eq_true_eq, eq_users_of_mem_owners hd hmem, List.length_map] at hlen
    exact hlen
  · intro h
    have hservices := services_owners hd id
    cases hfind : Table.find id (owners (Node.ofFields documents)) with
    | none =>
      -- without an entry there would be no services
      rw [Owners.services, hfind, Option.getD_none, eq_comm, List.map_eq_nil_iff] at hservices
      rw [hservices] at h
      cases h
    | some services =>
      rw [Owners.services, hfind, Option.getD_some] at hservices
      refine List.mem_map.2 ⟨(id, services), List.mem_filter.2 ⟨?_, ?_⟩, rfl⟩
      · exact Table.mem_of_find_eq_some hfind
      · rw [decide_eq_true_eq, hservices, List.length_map]
        exact h

theorem sharedId_map (id : String) (names : List String) :
    sharedId id (names.map .str) = .ok (sharedIssue id names) := by
  have hnone : (names.map Scalar.str).find? (fun s => (name? s).isNone) = none := by
    rw [List.find?_eq_none]
    intro s hs
    obtain ⟨name, -, rfl⟩ := List.mem_map.1 hs
    exact Bool.false_ne_true
  have hnames : (names.map Scalar.str).filterMap name? = names := by
    rw [List.filterMap_map]
    exact List.filterMap_some
  simp only [sharedId, hnone, hnames, sharedIssue]

/-- A list whose elements have no errors is gone through from one end to the other. -/
theorem mapM_eq_ok_map {α β ε : Type} {f : α → Except ε β} {g : α → β} {l : List α}
    (h : ∀ a ∈ l, f a = .ok (g a)) : l.mapM f = .ok (l.map g) := by
  induction l with
  | nil => rfl
  | cons a l ih =>
    obtain ⟨ha, hl⟩ := List.forall_mem_cons.1 h
    rw [List.mapM_cons, ha, ih hl]
    rfl

theorem sharedIds_owners {documents : Table String Json} (hd : documents.Distinct) :
    sharedIds (owners (Node.ofFields documents)) = .ok (sharedIssues documents) := by
  rw [sharedIssues, sharedNames, Table.keys, List.map_map]
  refine mapM_eq_ok_map fun entry hentry => ?_
  rw [eq_users_of_mem_owners hd (List.mem_filter.1 hentry).1]
  exact sharedId_map entry.1 (users documents entry.1)

/-- The issues of one service, whose name is a text. -/
theorem issues_str {name : String} {v : Json} (h : (Node.ofJson v).isWordless = false) :
    issues (.str name) (Node.ofJson v) =
      .ok ((Node.ofJson v).check.errors.map (Issue.inService (.str name)),
        (Node.ofJson v).check.warnings.map (Issue.inService (.str name)) ++
          if v.IsIdle then [noOperations (.str name)] else []) := by
  have hlong : (Scalar.str name).isLong = false := rfl
  have hcontext : (context? (.str name)).isNone = false := rfl
  simp only [issues_eq, h, hlong, hcontext, Bool.false_and, Bool.and_false, Bool.false_eq_true,
    ↓reduceIte, lacksOperations_ofJson]

/-- The report on services, if their documents can be put into words. -/
theorem check_ofFields {documents : Table String Json} (hd : documents.Distinct)
    (hw : ∀ e ∈ documents, (Node.ofJson e.2).isWordless = false) :
    check (Node.ofFields documents) =
      .ok (Report.ofIssues (ownErrors documents ++ sharedIssues documents)
        (ownWarnings documents)) := by
  have hall : (Node.ofFields documents).mapM (fun e => issues e.1 e.2) =
      .ok (documents.map fun e => ((Node.ofJson e.2).check.errors.map (Issue.inService (.str e.1)),
        (Node.ofJson e.2).check.warnings.map (Issue.inService (.str e.1)) ++
          if e.2.IsIdle then [noOperations (.str e.1)] else [])) := by
    rw [Node.ofFields_eq_map, List.mapM_map]
    exact mapM_eq_ok_map fun e he => issues_str (hw e he)
  rw [check, hall, sharedIds_owners hd]
  simp only [bind, Except.bind, pure, Except.pure, List.flatMap_map, ownErrors, ownWarnings]

/-! ## Shared identifiers, and services without operations -/

/-- More than one service uses the identifier: two different ones do. -/
theorem one_lt_length_users_iff {documents : Table String Json} (hd : documents.Distinct)
    {id : String} : 1 < (users documents id).length ↔
      ∃ e ∈ documents, ∃ e' ∈ documents, e.1 ≠ e'.1 ∧ e.2.UsesId id ∧ e'.2.UsesId id := by
  have hnodup : (users documents id).Nodup := hd.sublist (List.filter_sublist.map Prod.fst)
  have hmem (name : String) :
      name ∈ users documents id ↔ ∃ v, (name, v) ∈ documents ∧ v.UsesId id := mem_users_iff
  constructor
  · intro h
    match hl : users documents id with
    | [] | [_] => simp [hl] at h
    | name :: name' :: names =>
      rw [hl] at hnodup hmem
      obtain ⟨v, hv, huses⟩ := (hmem name).1 (by simp)
      obtain ⟨v', hv', huses'⟩ := (hmem name').1 (by simp)
      refine ⟨_, hv, _, hv', ?_, huses, huses'⟩
      rintro rfl
      simp at hnodup
  · rintro ⟨⟨name, v⟩, hv, ⟨name', v'⟩, hv', hne, huses, huses'⟩
    have hname := (hmem name).2 ⟨v, hv, huses⟩
    have hname' := (hmem name').2 ⟨v', hv', huses'⟩
    by_contra hle
    -- in a list of one name the two would be the same
    obtain ⟨only, honly⟩ := List.length_eq_one_iff.1
      (Nat.le_antisymm (Nat.le_of_not_lt hle) (List.length_pos_of_mem hname))
    rw [honly, List.mem_singleton] at hname hname'
    exact hne (hname.trans hname'.symm)

theorem startsApart_of_mem_check {document : Node} {i : Issue}
    (h : i ∈ document.check.errors ∨ i ∈ document.check.warnings) :
    DocumentFault.StartsApart i.message := by
  obtain ⟨o, ho, rfl⟩ : ∃ o ∈ document.objections, o.issue = i := by
    rcases h with h | h
    · obtain ⟨o, ho, rfl⟩ := List.mem_map.1 h
      exact ⟨o, (List.mem_filter.1 ho).1, rfl⟩
    · obtain ⟨o, ho, rfl⟩ := List.mem_map.1 h
      exact ⟨o, (List.mem_filter.1 ho).1, rfl⟩
  exact DocumentFault.startsApart_message (Node.areOwn_objections document o ho)

/-- What is said about one document is not what is said about services. -/
theorem filter_inService_eq_nil {issues : List Issue}
    (h : ∀ i ∈ issues, DocumentFault.StartsApart i.message) (service : Scalar) {f : DocumentFault}
    (hf : f.isOfServices = true) :
    (issues.map (Issue.inService service)).filter (fun i => i.message = f.message) = [] := by
  rw [List.filter_eq_nil_iff]
  intro i hi
  obtain ⟨j, hj, rfl⟩ := List.mem_map.1 hi
  rw [decide_eq_true_eq]
  intro hmessage
  have hstarts : DocumentFault.StartsApart f.message := hmessage ▸ h j hj
  rw [DocumentFault.startsApart_message_iff, hf] at hstarts
  cases hstarts

theorem filter_eq_of_nodup {l : List String} (hl : l.Nodup) (a : String) :
    l.filter (fun b => b = a) = if a ∈ l then [a] else [] := by
  rw [List.filter_eq, hl.count]
  split <;> rfl

/-- There is one error for each shared identifier. -/
theorem filter_sharedId {documents : Table String Json} (hd : documents.Distinct) (id : String) :
    (ownErrors documents ++ sharedIssues documents).filter
        (fun i => i.message = (DocumentFault.sharedId id).message) =
      if 1 < (users documents id).length then [sharedIssue id (users documents id)] else [] := by
  have hown : (ownErrors documents).filter
      (fun i => i.message = (DocumentFault.sharedId id).message) = [] := by
    rw [ownErrors, List.filter_flatMap, List.flatMap_eq_nil_iff]
    exact fun e _ => filter_inService_eq_nil (fun i hi => startsApart_of_mem_check (.inl hi)) _ rfl
  have hmessage (id' : String) :
      (sharedIssue id' (users documents id')).message = (DocumentFault.sharedId id).message ↔
        id' = id := DocumentFault.message_sharedId_inj
  rw [List.filter_append, hown, List.nil_append, sharedIssues, List.filter_map]
  simp only [Function.comp_def, hmessage]
  rw [filter_eq_of_nodup (nodup_sharedNames documents)]
  simp only [mem_sharedNames_iff hd]
  split <;> rfl

/-- What is listed for some members only is listed for those that are filtered out. -/
theorem flatMap_ite_singleton {α β : Type} {p : α → Prop} [DecidablePred p] (f : α → β)
    (l : List α) : (l.flatMap fun a => if p a then [f a] else []) = (l.filter (p ·)).map f := by
  induction l with
  | nil => rfl
  | cons a l ih =>
    rw [List.flatMap_cons, ih]
    by_cases h : p a <;> simp [h]

/-- There is one warning for each service without operations. -/
theorem filter_noOperations {documents : Table String Json} (hd : documents.Distinct)
    (name : String) :
    (ownWarnings documents).filter
        (fun i => i.message = (DocumentFault.noOperations name).message) =
      if name ∈ idle documents then [noOperations (.str name)] else [] := by
  have hmessage (name' : String) : (noOperations (.str name')).message =
      (DocumentFault.noOperations name).message ↔ name' = name :=
    DocumentFault.message_noOperations_inj
  have hwarnings (e : String × Json) :
      ((Node.ofJson e.2).check.warnings.map (Issue.inService (.str e.1)) ++
        if e.2.IsIdle then [noOperations (.str e.1)] else []).filter
          (fun i => i.message = (DocumentFault.noOperations name).message) =
        if e.2.IsIdle ∧ e.1 = name then [noOperations (.str e.1)] else [] := by
    rw [List.filter_append, filter_inService_eq_nil
      (fun i hi => startsApart_of_mem_check (.inr hi)) _ rfl, List.nil_append]
    by_cases hidle : e.2.IsIdle
    · by_cases hname : e.1 = name <;> simp [hidle, hname, hmessage]
    · simp [hidle]
  rw [ownWarnings, List.filter_flatMap]
  simp only [hwarnings]
  rw [flatMap_ite_singleton (fun e : String × Json => noOperations (.str e.1))]
  have hidle : (idle documents).Nodup := hd.sublist (List.filter_sublist.map Prod.fst)
  have hnames : (documents.filter fun e => e.2.IsIdle ∧ e.1 = name).map
      (fun e => noOperations (.str e.1)) =
        ((idle documents).filter (fun name' => name' = name)).map
          fun name => noOperations (.str name) := by
    rw [idle, Table.keys, List.filter_map, List.filter_filter, List.map_map]
    simp only [Function.comp_def, Bool.decide_and, Bool.and_comm]
  rw [hnames, filter_eq_of_nodup hidle]
  split <;> rfl

/-! ## The order of services -/

/-- The issues are the same up to the order in which services are named. -/
inductive SameUpToNames : Issue → Issue → Prop where
  | self (i : Issue) : SameUpToNames i i
  | shared (id : String) {names names' : List String} (h : names.Perm names') :
      SameUpToNames (sharedIssue id names) (sharedIssue id names')

/-- The reports are the same up to the order of their issues, and of the names in them. -/
structure SameReport (r r' : Report) : Prop where
  valid : r'.valid = r.valid
  errors : ∃ errors, r.errors.Perm errors ∧ List.Forall₂ SameUpToNames errors r'.errors
  warnings : r.warnings.Perm r'.warnings

section

variable {documents documents' : Table String Json} (h : documents.Perm documents')
include h

theorem users_perm (id : String) : (users documents id).Perm (users documents' id) :=
  (h.filter _).map Prod.fst

theorem sharedNames_perm (hd : documents.Distinct) :
    (sharedNames documents).Perm (sharedNames documents') := by
  rw [List.perm_ext_iff_of_nodup (nodup_sharedNames documents) (nodup_sharedNames documents')]
  intro id
  rw [mem_sharedNames_iff hd, mem_sharedNames_iff (hd.of_perm h), (users_perm h id).length_eq]

theorem errors_perm (hd : documents.Distinct) :
    ∃ errors, (ownErrors documents ++ sharedIssues documents).Perm errors ∧
      List.Forall₂ SameUpToNames errors (ownErrors documents' ++ sharedIssues documents') := by
  refine ⟨ownErrors documents' ++
    (sharedNames documents').map fun id => sharedIssue id (users documents id), ?_, ?_⟩
  · exact (h.flatMap_right _).append ((sharedNames_perm h hd).map _)
  · refine List.rel_append (List.forall₂_same.2 fun i _ => .self i) ?_
    rw [sharedIssues, List.forall₂_map_left_iff, List.forall₂_map_right_iff]
    exact List.forall₂_same.2 fun id _ => .shared id (users_perm h id)

theorem sameReport (hd : documents.Distinct) :
    SameReport
      (Report.ofIssues (ownErrors documents ++ sharedIssues documents) (ownWarnings documents))
      (Report.ofIssues (ownErrors documents' ++ sharedIssues documents')
        (ownWarnings documents')) where
  valid := by
    obtain ⟨errors, hperm, hnames⟩ := errors_perm h hd
    -- there are as many errors on both sides
    rw [Bool.eq_iff_iff, Report.valid_ofIssues, Report.valid_ofIssues, ← List.length_eq_zero_iff,
      ← List.length_eq_zero_iff, hperm.length_eq, hnames.length_eq]
  errors := errors_perm h hd
  warnings := h.flatMap_right _

end

/-! ## The check -/

/-- Each shared identifier has one error, which names the services that use it, and each service
without operations has one warning. -/
structure IsExact (documents : Table String Json) (r : Report) : Prop where
  shared : ∀ id, r.errors.filter (fun i => i.message = (DocumentFault.sharedId id).message) =
    if 1 < (users documents id).length then [sharedIssue id (users documents id)] else []
  idle : ∀ name, r.warnings.filter
      (fun i => i.message = (DocumentFault.noOperations name).message) =
    if name ∈ idle documents then [noOperations (.str name)] else []

theorem exists_check_iff {documents : Table String Json} (hd : documents.Distinct) :
    (∃ r, check (Node.ofFields documents) = .ok r) ↔
      ∀ e ∈ documents, (Node.ofJson e.2).isWordless = false := by
  constructor
  · intro h e he
    have hall := (check_eq_ok_iff _).1 h
    rw [Node.ofFields_eq_map] at hall
    exact (hall.1 _ (List.mem_map_of_mem he)).worded
  · exact fun hw => ⟨_, check_ofFields hd hw⟩

theorem valid_checkWorded_iff {n : Node} :
    (∃ r, n.checkWorded = .ok r ∧ r.valid = true) ↔
      n.isWordless = false ∧ n.check.errors = [] := by
  rw [Node.checkWorded, Node.check, Objection.report, ← Report.valid_ofIssues]
  cases n.isWordless with
  | true =>
    constructor
    · rintro ⟨r, hr, -⟩
      cases hr
    · rintro ⟨hw, -⟩
      cases hw
  | false =>
    constructor
    · rintro ⟨r, hr, hvalid⟩
      obtain rfl := Except.ok.inj hr
      exact ⟨rfl, hvalid⟩
    · rintro ⟨-, hvalid⟩
      exact ⟨_, rfl, hvalid⟩

theorem ownErrors_eq_nil_iff {documents : Table String Json} :
    ownErrors documents = [] ↔ ∀ e ∈ documents, (Node.ofJson e.2).check.errors = [] := by
  simp only [ownErrors, List.flatMap_eq_nil_iff, List.map_eq_nil_iff]

theorem sharedIssues_eq_nil_iff {documents : Table String Json} (hd : documents.Distinct) :
    sharedIssues documents = [] ↔ ∀ e ∈ documents, ∀ e' ∈ documents, e.1 ≠ e'.1 →
      ∀ id, ¬ (e.2.UsesId id ∧ e'.2.UsesId id) := by
  rw [sharedIssues, List.map_eq_nil_iff, List.eq_nil_iff_forall_not_mem]
  simp only [mem_sharedNames_iff hd, one_lt_length_users_iff hd]
  constructor
  · intro h e he e' he' hne id huses
    exact h id ⟨e, he, e', he', hne, huses⟩
  · rintro h id ⟨e, he, e', he', hne, huses⟩
    exact h e he e' he' hne id huses

/-- **The check of services.** A map of services is valid if the document of each is, and if no two
services use one operation identifier. It has a report if each document has one, and so it is for
documents that were read. The report has one error for each shared identifier, naming its services
in the order of the map, and one warning for each service with paths but without operations. With
the services in another order it is the same up to the order of its issues and of these names. -/
theorem check_exact {documents : Table String Json} (hd : documents.Distinct) :
    ((∃ r, check (Node.ofFields documents) = .ok r ∧ r.valid = true) ↔
      (∀ e ∈ documents, ∃ r, (Node.ofJson e.2).checkWorded = .ok r ∧ r.valid = true) ∧
        ∀ e ∈ documents, ∀ e' ∈ documents, e.1 ≠ e'.1 →
          ∀ id, ¬ (e.2.UsesId id ∧ e'.2.UsesId id)) ∧
    ((∃ r, check (Node.ofFields documents) = .ok r) ↔
      ∀ e ∈ documents, ∃ r, (Node.ofJson e.2).checkWorded = .ok r) ∧
    ((∀ e ∈ documents, e.2.IsReadable) → ∃ r, check (Node.ofFields documents) = .ok r) ∧
    ∀ r, check (Node.ofFields documents) = .ok r →
      IsExact documents r ∧
        ∀ documents', documents.Perm documents' →
          ∃ r', check (Node.ofFields documents') = .ok r' ∧ SameReport r r' := by
  refine ⟨?_, ?_, ?_, ?_⟩
  · constructor
    · rintro ⟨r, hr, hvalid⟩
      have hw := (exists_check_iff hd).1 ⟨r, hr⟩
      rw [check_ofFields hd hw] at hr
      obtain rfl := Except.ok.inj hr
      rw [Report.valid_ofIssues, List.append_eq_nil_iff] at hvalid
      obtain ⟨hown, hshared⟩ := hvalid
      refine ⟨fun e he => valid_checkWorded_iff.2 ⟨hw e he, ?_⟩, ?_⟩
      · exact ownErrors_eq_nil_iff.1 hown e he
      · exact (sharedIssues_eq_nil_iff hd).1 hshared
    · rintro ⟨hown, hshared⟩
      refine ⟨_, check_ofFields hd fun e he => (valid_checkWorded_iff.1 (hown e he)).1, ?_⟩
      rw [Report.valid_ofIssues, List.append_eq_nil_iff]
      constructor
      · exact ownErrors_eq_nil_iff.2 fun e he => (valid_checkWorded_iff.1 (hown e he)).2
      · exact (sharedIssues_eq_nil_iff hd).2 hshared
  · simp only [exists_check_iff hd, Node.exists_checkWorded_iff]
  · exact fun hread => (exists_check_iff hd).2 fun e he => (hread e he).isShort_ofJson.isWordless
  · intro r hr
    have hw := (exists_check_iff hd).1 ⟨r, hr⟩
    rw [check_ofFields hd hw] at hr
    obtain rfl := Except.ok.inj hr
    refine ⟨⟨filter_sharedId hd, filter_noOperations hd⟩, fun documents' h => ?_⟩
    have hw' : ∀ e ∈ documents', (Node.ofJson e.2).isWordless = false :=
      fun e he => hw e (h.mem_iff.2 he)
    exact ⟨_, check_ofFields (hd.of_perm h) hw', sameReport h hd⟩

/-- Two services with one identifier, and a service without operations. -/
def threeServices : Table String Json :=
  let listing : Json := .obj [("paths", .obj [("/x", .obj [("get", .obj
    [("operationId", .str "list")])])])]
  [("A", listing), ("B", listing), ("C", .obj [("paths", .obj [])])]

theorem check_exact_threeServices :
    threeServices.Distinct ∧ ∃ r, check (Node.ofFields threeServices) = .ok r ∧
      r.valid = false ∧
      r.errors.filter (fun i => i.message = (DocumentFault.sharedId "list").message) =
        [sharedIssue "list" ["A", "B"]] ∧
      r.warnings.filter (fun i => i.message = (DocumentFault.noOperations "C").message) =
        [noOperations (.str "C")] := by
  have hd : threeServices.Distinct := show (Table.keys threeServices).Nodup by decide
  obtain ⟨hvalid, hreport, -, hexact⟩ := check_exact hd
  have hw : ∀ e ∈ threeServices, (Node.ofJson e.2).isWordless = false := by decide
  obtain ⟨r, hr⟩ := hreport.2 fun e he => Node.exists_checkWorded_iff _ |>.2 (hw e he)
  obtain ⟨⟨hshared, hidle⟩, -⟩ := hexact r hr
  have husers : users threeServices "list" = ["A", "B"] := by decide
  refine ⟨hd, r, hr, ?_, ?_, ?_⟩
  · -- the first two services share the identifier
    refine Bool.eq_false_iff.2 fun h => ?_
    have huses : 1 < (users threeServices "list").length := by
      rw [husers]
      decide
    obtain ⟨e, he, e', he', hne, huses⟩ := (one_lt_length_users_iff hd).1 huses
    exact (hvalid.1 ⟨r, hr, h⟩).2 e he e' he' hne "list" huses
  · rw [hshared, husers]
    rfl
  · rw [hidle]
    decide

end Services

end SequenceApi
