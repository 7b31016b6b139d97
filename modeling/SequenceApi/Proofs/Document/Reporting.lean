import SequenceApi.Document.Services
import SequenceApi.Proofs.Document.Worded
import SequenceApi.Proofs.Json.Readable
import SequenceApi.Proofs.Schema.HeldReference
import SequenceApi.Source.Content

/-!
# When a check has a report

A check has a report unless something has no words. For a document that is an integer with too many
digits in one of the places that are put into words. For services it is also a key that is no text,
where the key has to stand for the service: next to an operation identifier that it shares, or in the
warning that it has no operations. A JSON text has short integers and keys that are texts, so that the
check of what is read from it always has a report.

## Main definitions

* `Services.IsReportable`: the conditions on a map of services
* `Node.IsReportable`: the conditions on a decoded value
* `Node.IsShort`: no integer in the value has too many digits

## Main results

* `Services.check_eq_ok_iff`: when a map of services has a report
* `Node.IsShort.isWordless`: a value with short integers can be put into words
* `Node.exists_checkAny_iff`: when a decoded value has a report
* `Node.exists_report_iff`: when each kind of check has a report, and that JSON values have one
-/

namespace SequenceApi

open Text

/-- A list is gone through without an error if no element has one. -/
theorem exists_mapM_eq_ok_iff {α β ε : Type} {f : α → Except ε β} {l : List α} :
    (∃ r, l.mapM f = .ok r) ↔ ∀ a ∈ l, ∃ b, f a = .ok b := by
  induction l with
  | nil => exact ⟨fun _ => by simp, fun _ => ⟨[], rfl⟩⟩
  | cons a l ih =>
    rw [List.forall_mem_cons, ← ih, List.mapM_cons]
    cases ha : f a with
    | error e =>
      constructor
      · rintro ⟨r, hr⟩
        cases hr
      · rintro ⟨⟨b, hb⟩, -⟩
        cases hb
    | ok b =>
      cases hl : l.mapM f with
      | error e =>
        constructor
        · rintro ⟨r, hr⟩
          cases hr
        · rintro ⟨-, r, hr⟩
          cases hr
      | ok bs => exact ⟨fun _ => ⟨⟨b, rfl⟩, bs, rfl⟩, fun _ => ⟨b :: bs, rfl⟩⟩

/-- What a list is mapped to comes from its elements. -/
theorem exists_of_mem_mapM {α β ε : Type} {f : α → Except ε β} {l : List α} {r : List β}
    (h : l.mapM f = .ok r) {b : β} (hb : b ∈ r) : ∃ a ∈ l, f a = .ok b := by
  induction l generalizing r with
  | nil =>
    obtain rfl := Except.ok.inj h
    cases hb
  | cons a l ih =>
    rw [List.mapM_cons] at h
    cases ha : f a with
    | error e =>
      rw [ha] at h
      cases h
    | ok c =>
      cases hl : l.mapM f with
      | error e =>
        rw [ha, hl] at h
        cases h
      | ok cs =>
        rw [ha, hl] at h
        obtain rfl := Except.ok.inj h
        rcases List.mem_cons.1 hb with rfl | hb
        · exact ⟨a, List.mem_cons_self, ha⟩
        · obtain ⟨a', ha', hfa⟩ := ih hl hb
          exact ⟨a', List.mem_cons_of_mem a ha', hfa⟩

namespace Services

/-! ## Identifiers and their services -/

/-- The uses of operation identifiers in documents, each with its service. -/
def uses (documents : List (Scalar × Node)) : List (Scalar × String) :=
  documents.flatMap fun e => (operationIds e.2).map fun id => (e.1, id)

theorem mem_uses_iff {documents : List (Scalar × Node)} {s : Scalar} {id : String} :
    (s, id) ∈ uses documents ↔ ∃ e ∈ documents, e.1 = s ∧ id ∈ operationIds e.2 := by
  rw [uses, List.mem_flatMap]
  constructor
  · rintro ⟨e, he, hid⟩
    obtain ⟨id', hid', heq⟩ := List.mem_map.1 hid
    obtain ⟨rfl, rfl⟩ := Prod.mk.inj heq
    exact ⟨e, he, rfl, hid'⟩
  · rintro ⟨e, he, rfl, hid⟩
    exact ⟨e, he, List.mem_map_of_mem hid⟩

/-- The services of an identifier are those that use it, each listed once. -/
structure Owners.Record (owners : Owners) (uses : List (Scalar × String)) : Prop where
  distinct : Table.Distinct owners
  nodup : ∀ id, ((Table.find id owners).getD []).Nodup
  mem_iff : ∀ id s, s ∈ (Table.find id owners).getD [] ↔ (s, id) ∈ uses

theorem Owners.Record.add {owners : Owners} {uses : List (Scalar × String)}
    (h : owners.Record uses) (s : Scalar) (id : String) :
    (owners.add s id).Record (uses ++ [(s, id)]) where
  distinct := h.distinct.put id _
  nodup := by
    intro id'
    rw [Owners.add]
    rcases eq_or_ne id' id with rfl | hne
    · rw [Table.find_put_self, Option.getD_some]
      split
      · exact h.nodup id'
      · next hs =>
        refine (h.nodup id').append (List.nodup_singleton s) ?_
        simpa using hs
    · rw [Table.find_put_of_ne hne]
      exact h.nodup id'
  mem_iff := by
    intro id' t
    rw [Owners.add, List.mem_append, List.mem_singleton, ← h.mem_iff]
    rcases eq_or_ne id' id with rfl | hne
    · rw [Table.find_put_self, Option.getD_some]
      split
      · next hs =>
        -- a service that is listed stays as it is
        have hs' : s ∈ (Table.find id' owners).getD [] := by simpa using hs
        exact ⟨.inl, fun ht => ht.elim id fun heq => (Prod.mk.inj heq).1 ▸ hs'⟩
      · simp
    · rw [Table.find_put_of_ne hne]
      simp [hne]

theorem record_owners (documents : List (Scalar × Node)) :
    (owners documents).Record (uses documents) := by
  have hfold : owners documents = (uses documents).foldl (fun o u => Owners.add o u.1 u.2) [] := by
    simp only [owners, uses, List.foldl_flatMap, List.foldl_map]
  rw [hfold]
  -- Induction on the uses from the last one.
  induction uses documents using List.reverseRecOn with
  | nil => exact ⟨List.nodup_nil, fun _ => List.nodup_nil, by simp⟩
  | append_singleton us u ih =>
    rw [List.foldl_append]
    exact ih.add u.1 u.2

/-- Keys of different services that use one identifier are texts. -/
def SharesNamed (documents : List (Scalar × Node)) : Prop :=
  ∀ e ∈ documents, ∀ e' ∈ documents, e.1 ≠ e'.1 → ∀ id ∈ operationIds e.2,
    id ∈ operationIds e'.2 → (name? e.1).isSome = true

theorem exists_sharedId_iff {id : String} {services : List Scalar} :
    (∃ i, sharedId id services = .ok i) ↔ ∀ s ∈ services, (name? s).isSome = true := by
  rw [sharedId]
  cases h : services.find? fun s => (name? s).isNone with
  | none =>
    have hall := List.find?_eq_none.1 h
    refine ⟨fun _ s hs => ?_, fun _ => ⟨_, rfl⟩⟩
    rw [← Option.not_isNone, Bool.not_eq_true']
    exact Bool.eq_false_iff.2 (hall s hs)
  | some s =>
    constructor
    · rintro ⟨i, hi⟩
      cases hi
    · intro hall
      have hnone := List.find?_some h
      have hsome := hall s (List.mem_of_find?_eq_some h)
      rw [← Option.not_isNone, hnone] at hsome
      cases hsome

theorem exists_sharedIds_iff (documents : List (Scalar × Node)) :
    (∃ is, sharedIds (owners documents) = .ok is) ↔ SharesNamed documents := by
  have hrecord := record_owners documents
  rw [sharedIds, exists_mapM_eq_ok_iff]
  constructor
  · intro h e he e' he' hne id hid hid'
    have hmem := (hrecord.mem_iff id e.1).2 (mem_uses_iff.2 ⟨e, he, rfl, hid⟩)
    have hmem' := (hrecord.mem_iff id e'.1).2 (mem_uses_iff.2 ⟨e', he', rfl, hid'⟩)
    cases hfind : Table.find id (owners documents) with
    | none => simp [hfind] at hmem
    | some services =>
      rw [hfind, Option.getD_some] at hmem hmem'
      have hlen : 1 < services.length := by
        by_contra hle
        -- in a list of one service the two would be the same
        obtain ⟨s, rfl⟩ := List.length_eq_one_iff.1
          (Nat.le_antisymm (Nat.le_of_not_lt hle) (List.length_pos_of_mem hmem))
        exact hne ((List.mem_singleton.1 hmem).trans (List.mem_singleton.1 hmem').symm)
      have hentry : (id, services) ∈ (owners documents).filter fun e => 1 < e.2.length :=
        List.mem_filter.2 ⟨Table.mem_of_find_eq_some hfind, decide_eq_true hlen⟩
      exact exists_sharedId_iff.1 (h _ hentry) e.1 hmem
  · intro h entry hentry
    obtain ⟨hmem, hlen⟩ := List.mem_filter.1 hentry
    obtain ⟨id, services⟩ := entry
    have hfind := hrecord.distinct.find_of_mem hmem
    have hnodup := hrecord.nodup id
    have hiff := hrecord.mem_iff id
    rw [hfind, Option.getD_some] at hnodup hiff
    refine exists_sharedId_iff.2 fun s hs => ?_
    obtain ⟨s', hs', hne⟩ : ∃ s' ∈ services, s ≠ s' := by
      by_contra hall
      have hsame : services = List.replicate services.length s :=
        List.eq_replicate_iff.2 ⟨rfl, fun s' hs' => by
          by_contra hne
          exact hall ⟨s', hs', Ne.symm hne⟩⟩
      rw [hsame, List.nodup_replicate] at hnodup
      simp only [decide_eq_true_eq] at hlen
      omega
    obtain ⟨e, he, rfl, hid⟩ := mem_uses_iff.1 ((hiff s).1 hs)
    obtain ⟨e', he', rfl, hid'⟩ := mem_uses_iff.1 ((hiff s').1 hs')
    exact h e he e' he' hne id hid hid'

/-! ## One service -/

/-- One service can be reported on: its document can be put into words, its key has not too many
digits if it is put into words, and stands for the service if that has no operations. -/
structure IsReportable (service : Scalar) (document : Node) : Prop where
  worded : document.isWordless = false
  short : isNamed document document.check = true → service.isLong = false
  context : lacksOperations document = true → (context? service).isSome = true

theorem issues_eq (service : Scalar) (document : Node) :
    issues service document =
      if document.isWordless then .error .longInt
      else if service.isLong && isNamed document document.check then .error .longInt
      else if lacksOperations document && (context? service).isNone then .error (.context service)
      else
        .ok (document.check.errors.map (Issue.inService service),
          document.check.warnings.map (Issue.inService service) ++
            if lacksOperations document then [noOperations service] else []) := by
  cases hworded : document.isWordless with
  | true => simp [issues, Node.checkWorded, hworded, bind, Except.bind]
  | false =>
    simp only [issues, Node.checkWorded, hworded, bind, Except.bind, Bool.false_eq_true,
      ↓reduceIte]
    split
    · rfl
    · split <;> rfl

theorem exists_issues_iff {service : Scalar} {document : Node} :
    (∃ is, issues service document = .ok is) ↔ IsReportable service document := by
  rw [issues_eq]
  constructor
  · rintro ⟨is, his⟩
    split at his
    · cases his
    · next hworded =>
      split at his
      · cases his
      · next hshort =>
        split at his
        · cases his
        · next hcontext =>
          rw [Bool.and_eq_true, not_and, Bool.not_eq_true] at hshort
          rw [Bool.and_eq_true, not_and, Bool.not_eq_true] at hcontext
          refine ⟨by simpa using hworded, fun hnamed => ?_, fun hlacks => ?_⟩
          · by_contra hlong
            rw [hshort (by simpa using hlong)] at hnamed
            cases hnamed
          · rw [← Option.not_isNone, hcontext hlacks]
            rfl
  · intro h
    have hshort : (service.isLong && isNamed document document.check) = false := by
      cases hnamed : isNamed document document.check with
      | false => exact Bool.and_false _
      | true => rw [h.short hnamed, Bool.false_and]
    have hcontext : (lacksOperations document && (context? service).isNone) = false := by
      cases hlacks : lacksOperations document with
      | false => rfl
      | true => rw [← Option.not_isSome, h.context hlacks]; rfl
    rw [h.worded, hshort, hcontext]
    exact ⟨_, rfl⟩

/-- A map of services has a report if each service can be reported on, and if services that share an
operation identifier have texts for keys. -/
theorem check_eq_ok_iff (documents : List (Scalar × Node)) :
    (∃ r, check documents = .ok r) ↔
      (∀ e ∈ documents, IsReportable e.1 e.2) ∧ SharesNamed documents := by
  have hall := exists_mapM_eq_ok_iff (f := fun e : Scalar × Node => issues e.1 e.2)
    (l := documents)
  rw [← exists_sharedIds_iff, check]
  simp only [exists_issues_iff] at hall
  rw [← hall]
  cases documents.mapM fun e => issues e.1 e.2 with
  | error e =>
    constructor
    · rintro ⟨r, hr⟩
      cases hr
    · rintro ⟨⟨r, hr⟩, -⟩
      cases hr
  | ok all =>
    cases sharedIds (owners documents) with
    | error e =>
      constructor
      · rintro ⟨r, hr⟩
        cases hr
      · rintro ⟨-, r, hr⟩
        cases hr
    | ok shared => exact ⟨fun _ => ⟨⟨_, rfl⟩, _, rfl⟩, fun _ => ⟨_, rfl⟩⟩

end Services

/-! ## Values with short integers -/

namespace Node

/-- No integer in the value has too many digits. -/
inductive IsShort : Node → Prop where
  | scalar {s : Scalar} (h : s.isLong = false) : IsShort (.scalar s)
  | seq {mark : Option Nat} {items : List Node} (h : ∀ n ∈ items, IsShort n) :
      IsShort (.seq mark items)
  | map {mark : Option Nat} {entries : List (Scalar × Node)}
      (hk : ∀ e ∈ entries, e.1.isLong = false) (hv : ∀ e ∈ entries, IsShort e.2) :
      IsShort (.map mark entries)

theorem isLongItem_eq_false {items : List Node}
    (h : ∀ n ∈ items, ∀ around, n.isLongWithin around = false) (around : List Nat) :
    isLongItem around items = false := by
  induction items with
  | nil => rfl
  | cons n ns ih =>
    obtain ⟨hn, hns⟩ := List.forall_mem_cons.1 h
    rw [isLongItem, hn, ih hns]
    rfl

theorem isLongEntry_eq_false {entries : List (Scalar × Node)}
    (hk : ∀ e ∈ entries, e.1.isLong = false)
    (hv : ∀ e ∈ entries, ∀ around, e.2.isLongWithin around = false) (around : List Nat) :
    isLongEntry around entries = false := by
  induction entries with
  | nil => rfl
  | cons e es ih =>
    obtain ⟨hke, hkes⟩ := List.forall_mem_cons.1 hk
    obtain ⟨hve, hves⟩ := List.forall_mem_cons.1 hv
    rw [isLongEntry, hke, hve, ih hkes hves]
    rfl

theorem IsShort.isLongWithin {n : Node} (h : n.IsShort) (around : List Nat) :
    n.isLongWithin around = false := by
  induction h generalizing around with
  | scalar h => exact h
  | seq _ ih =>
    rw [Node.isLongWithin, isLongItem_eq_false ih, Bool.and_false]
  | map hk _ ih =>
    rw [Node.isLongWithin, isLongEntry_eq_false hk ih, Bool.and_false]

theorem IsShort.isLong {n : Node} (h : n.IsShort) : n.isLong = false :=
  h.isLongWithin []

section

variable {n m : Node} {k : Scalar}

theorem IsShort.entry (h : n.IsShort) (he : n.HasEntry k m) : k.isLong = false ∧ m.IsShort := by
  obtain ⟨entries, hn, hmem⟩ := he
  cases h with
  | scalar _ | seq _ => cases hn
  | map hk hv =>
    obtain rfl := Option.some.inj hn
    exact ⟨hk _ hmem, hv _ hmem⟩

theorem IsShort.get? {k : String} (h : n.IsShort) (hm : n.get? k = some m) : m.IsShort := by
  cases h with
  | scalar _ | seq _ => cases hm
  | map _ hv => exact hv _ (Table.mem_of_find_eq_some hm)

theorem IsShort.item (h : n.IsShort) (hm : n.HasItem k m) : k.isLong = false ∧ m.IsShort := by
  obtain ⟨paths, hpaths, hm⟩ := hm
  exact (h.get? hpaths).entry hm

theorem IsShort.operation (h : n.IsShort) (hm : n.HasOperation m) : m.IsShort := by
  obtain ⟨path, item, key, hitem, hkey, -⟩ := hm
  exact ((h.item hitem).2.entry hkey).2

theorem IsShort.parameter (h : n.IsShort) (hm : n.HasParameter m) : m.IsShort := by
  obtain ⟨mark, items, hitems, hm⟩ := hm
  cases h.get? hitems with
  | seq h => exact h m hm

theorem IsShort.response (h : n.IsShort) (hm : n.HasResponse k m) :
    k.isLong = false ∧ m.IsShort := by
  obtain ⟨responses, hresponses, hm⟩ := hm
  exact (h.get? hresponses).entry hm

theorem IsShort.mediaType (h : n.IsShort) (hk : n.LacksSchema k) : k.isLong = false := by
  obtain ⟨-, -, content, m, hcontent, hentry, -⟩ := hk
  exact ((h.get? hcontent).entry hentry).1

/-- What is put into words is a part of the document. -/
theorem Words.isShort (hm : n.Words m) (h : n.IsShort) : m.IsShort := by
  cases hm with
  | schema hcomponents hschemas hm =>
    exact .scalar (((h.get? hcomponents).get? hschemas).entry hm).1
  | path hm => exact .scalar (h.item hm).1
  | key hitem hm => exact .scalar ((h.item hitem).2.entry hm).1
  | status ho hm => exact .scalar ((h.operation ho).response hm).1
  | response ho hr hm => exact .scalar (((h.operation ho).response hr).2.mediaType hm)
  | request ho hb hm => exact .scalar (((h.operation ho).get? hb).mediaType hm)
  | place ho hp hm => exact ((h.operation ho).parameter hp).get? hm
  | name ho hp _ _ hm => exact ((h.operation ho).parameter hp).get? hm

/-- A value with short integers can be put into words. -/
theorem IsShort.isWordless (h : n.IsShort) : n.isWordless = false :=
  isWordless_eq_false_iff.2 fun _ hm => (hm.isShort h).isLong

end

/-! ## Decoded values -/

/-- The conditions on a decoded value: on a document, that it can be put into words; on a map of
services, those on its entries. Other values have none. -/
def IsReportable (n : Node) : Prop :=
  match n.entries? with
  | some entries =>
    if n.hasKey "openapi" then n.isWordless = false
    else (∀ e ∈ entries, Services.IsReportable e.1 e.2) ∧ Services.SharesNamed entries
  | none => True

theorem exists_checkWorded_iff (n : Node) :
    (∃ r, n.checkWorded = .ok r) ↔ n.isWordless = false := by
  rw [checkWorded]
  cases n.isWordless with
  | true =>
    constructor
    · rintro ⟨r, hr⟩
      cases hr
    · intro h
      cases h
  | false => exact ⟨fun _ => rfl, fun _ => ⟨_, rfl⟩⟩

theorem isWordless_of_entries?_eq_none {n : Node} (h : n.entries? = none) :
    n.isWordless = false := by
  cases n with
  | scalar s => rfl
  | seq mark items => rfl
  | map mark entries => cases h

theorem exists_checkAny_iff (n : Node) :
    (∃ r, n.checkAny = .ok r) ↔ n.IsReportable := by
  rw [checkAny, IsReportable]
  cases h : n.entries? with
  | none =>
    rw [exists_checkWorded_iff]
    exact iff_true_intro (isWordless_of_entries?_eq_none h)
  | some entries =>
    dsimp only
    split
    · exact exists_checkWorded_iff n
    · exact Services.check_eq_ok_iff entries

end Node

/-! ## JSON values -/

theorem Json.IsReadable.isShort_ofJson {v : Json} (h : v.IsReadable) : (Node.ofJson v).IsShort := by
  induction h with
  | null | bool _ | float _ | str _ => exact .scalar rfl
  | int h =>
    refine .scalar (decide_eq_false (Nat.not_lt.2 ?_))
    rwa [Nat.toString_eq_repr, Nat.repr, String.length_ofList]
  | arr _ ih =>
    rw [Node.ofJson, Node.ofItems_eq_map]
    refine .seq fun n hn => ?_
    obtain ⟨v, hv, rfl⟩ := List.mem_map.1 hn
    exact ih v hv
  | obj _ _ ih =>
    rw [Node.ofJson, Node.ofFields_eq_map]
    refine .map (fun e he => ?_) fun e he => ?_
    · obtain ⟨f, -, rfl⟩ := List.mem_map.1 he
      rfl
    · obtain ⟨f, hf, rfl⟩ := List.mem_map.1 he
      exact ih f hf

namespace Node

/-- The keys of a JSON object are texts. -/
theorem exists_str_of_mem_entries_ofJson {v : Json} {entries : List (Scalar × Node)}
    (h : (ofJson v).entries? = some entries) {e : Scalar × Node} (he : e ∈ entries) :
    ∃ k, e.1 = .str k := by
  cases v with
  | obj fields =>
    obtain rfl := Option.some.inj h
    rw [ofFields_eq_map] at he
    obtain ⟨f, -, rfl⟩ := List.mem_map.1 he
    exact ⟨f.1, rfl⟩
  | _ => cases h

theorem isReportable_ofJson {v : Json} (hv : v.IsReadable) : (ofJson v).IsReportable := by
  rw [IsReportable]
  cases h : (ofJson v).entries? with
  | none => trivial
  | some entries =>
    dsimp only
    split
    · exact hv.isShort_ofJson.isWordless
    · constructor
      · intro e he
        obtain ⟨k, hk⟩ := exists_str_of_mem_entries_ofJson h he
        obtain ⟨-, hshort⟩ := hv.isShort_ofJson.entry ⟨entries, h, he⟩
        exact ⟨hshort.isWordless, fun _ => by rw [hk]; rfl, fun _ => by rw [hk]; rfl⟩
      · intro e he e' _ _ id _ _
        obtain ⟨k, hk⟩ := exists_str_of_mem_entries_ofJson h he
        rw [hk]
        rfl

/-- **Reporting.** The check of a document has a report just if none of the values in its places of
words is or holds an integer with too many digits. The check of services has one if each can be reported on and if those
that share an operation identifier have texts for keys. The check of any value has one under the
condition of its kind, and what is read from JSON meets these conditions. -/
theorem exists_report_iff (n : Node) (documents : List (Scalar × Node)) :
    ((∃ r, n.checkWorded = .ok r) ↔ ∀ m, n.Words m → m.isLong = false) ∧
      ((∃ r, Services.check documents = .ok r) ↔
        (∀ e ∈ documents, Services.IsReportable e.1 e.2) ∧ Services.SharesNamed documents) ∧
      ((∃ r, n.checkAny = .ok r) ↔ n.IsReportable) ∧
      ∀ (text : String) (v : Json), Json.read text = .ok v → n = ofJson v →
        n.isWordless = false ∧ n.IsReportable := by
  have hworded := (exists_checkWorded_iff n).trans isWordless_eq_false_iff
  refine ⟨hworded, Services.check_eq_ok_iff documents, exists_checkAny_iff n, ?_⟩
  rintro text v hread rfl
  have hv : v.IsReadable := Json.isReadable_of_readChars hread
  exact ⟨hv.isShort_ofJson.isWordless, isReportable_ofJson hv⟩

/-- A map of services in YAML with an integer for a key, whose service has no operations. -/
theorem no_report_of_integer_key :
    ∃ n, Content.read .unknown "1: \x7bpaths: \x7b\x7d\x7d" = .ok n ∧
      ¬ ∃ r, n.checkAny = .ok r := by
  have hfail : ((Content.read .unknown "1: \x7bpaths: \x7b\x7d\x7d").toOption.map fun n =>
      n.checkAny.toOption.isNone) = some true := by decide +kernel
  obtain ⟨n, hn, hnone⟩ := Option.map_eq_some_iff.1 hfail
  refine ⟨n, ?_, ?_⟩
  · cases hread : Content.read .unknown "1: \x7bpaths: \x7b\x7d\x7d" with
    | ok m =>
      rw [hread] at hn
      rw [Option.some.inj hn]
    | error e =>
      rw [hread] at hn
      cases hn
  · rintro ⟨r, hr⟩
    rw [hr] at hnone
    cases hnone

end Node

end SequenceApi
