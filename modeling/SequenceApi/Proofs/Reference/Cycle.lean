import SequenceApi.Document.Check
import SequenceApi.Proofs.Reference.Chain
import SequenceApi.Proofs.Reference.Decoded

/-!
# The cycles of a document

A component schema refers to another one if its tree mentions it. The search for cycles finds each
loop of two or more schemas once, from wherever it starts. A schema that refers to itself is found,
once, if a chain of other schemas leads to it from a reference in a path or in a schema. It finds
nothing else, and what it writes is a walk from schema to schema. That a machine may bound the
length of the chains that can be followed is left out of account.

## Main definitions

* `Node.component?`: the schema that a reference points to
* `Node.RefersTo`: the edges between schemas
* `Node.IsStart`: the references with which a chain can start

## Main results

* `Node.leads_graph`: the graph of the search has the edges of the document
* `ReferenceGraph.count_loop_distinct`: a loop that is found is kept once
* `Node.cycles_exact`: the cycles of a document
-/

namespace SequenceApi

namespace ReferenceGraph

variable {g : ReferenceGraph} {starts : List (List String)}

/-! ## Loops that are found -/

/-- Of cycles whose loops hold nothing twice, each loop is kept once up to rotations. -/
theorem count_loop_distinct {cs : List Cycle} (hcs : ∀ c ∈ cs, c.loop.Nodup) {c : Cycle}
    (hc : c ∈ cs) {l : List String} (hl : c.loop ~r l) :
    (Cycle.distinct [] cs).countP (·.loop ~r l) = 1 := by
  have hkey : ∀ d ∈ Cycle.distinct [] cs, d.loop ~r l ↔ d.key = c.key := by
    intro d hd
    rw [Cycle.key_eq_key_iff (hcs d (Cycle.mem_of_mem_distinct hd))]
    exact ⟨fun h => h.trans hl.symm, fun h => h.trans hl⟩
  rw [List.countP_congr (q := fun d => d.key = c.key) (by simpa using hkey),
    Cycle.count_key_distinct, if_pos ⟨List.not_mem_nil, List.mem_map_of_mem hc⟩]

theorem IsLoop.nodup {Edge : String → String → Prop} {l : List String} (h : IsLoop Edge l) :
    l.Nodup := by
  cases h
  assumption

theorem mem_closings_starts {c : Cycle} :
    c ∈ starts.flatMap g.closingsFrom ↔ ∃ refs ∈ starts, g.IsClosing refs c := by
  simp [List.mem_flatMap, mem_closingsFrom_iff]

/-- A loop of two or more schemas is found, if chains start with what the schemas refer to. -/
theorem IsLoop.exists_closing {l : List String} (hl : IsLoop g.Leads l) (hlen : 2 ≤ l.length)
    (hstarts : Table.values g ⊆ starts) :
    ∃ refs ∈ starts, ∃ c, g.IsClosing refs c ∧ c.loop = l := by
  obtain ⟨a, b, rest, rfl⟩ : ∃ a b rest, l = a :: b :: rest := by
    match l, hlen with
    | a :: b :: rest, _ => exact ⟨a, b, rest, rfl⟩
  obtain ⟨-, refs, hrefs, ha⟩ := hl.exists_mem_values
  exact ⟨refs, hstarts hrefs, _, hl.isClosing ha, by simp [Cycle.loop]⟩

/-- A schema that refers to itself is found at the end of a chain of others. -/
theorem exists_closing_singleton_iff {x : String} :
    (∃ refs ∈ starts, ∃ c, g.IsClosing refs c ∧ c.loop = [x]) ↔
      g.Leads x x ∧ ∃ chain ≠ [], (chain ++ [x]).Nodup ∧ (chain ++ [x]).IsChain g.Leads ∧
        ∃ a ∈ chain.head?, ∃ refs ∈ starts, a ∈ refs := by
  constructor
  · rintro ⟨refs, hrefs, c, hc, hl⟩
    obtain ⟨rest, hrest⟩ := Cycle.exists_dropWhile_eq_cons hc.closes
    obtain ⟨rfl, rfl⟩ : c.ref = x ∧ rest = [] := List.cons_eq_cons.1 (hrest.symm.trans hl)
    -- the chain is what comes before its loop, and the loop
    have hsplit : c.chain.takeWhile (· != c.ref) ++ [c.ref] = c.chain := by
      rw [← hrest, List.takeWhile_append_dropWhile]
    have hne : c.chain.takeWhile (· != c.ref) ≠ [] := fun h =>
      hc.ne_singleton (by rw [← hsplit, h, List.nil_append])
    have hd := hc.nodup
    have hwalk := hc.isChain_walk
    obtain ⟨more, he, hf⟩ := hc.follows
    rw [List.nil_append] at he
    subst he
    rw [Cycle.walk] at hwalk
    generalize c.chain.takeWhile (· != c.ref) = pre at hsplit hne
    rw [← hsplit] at hd hwalk hf
    refine ⟨?_, pre, hne, hd, (List.isChain_append.1 hwalk).1, ?_⟩
    · exact (List.isChain_append.1 hwalk).2.2 c.ref (by simp) c.ref rfl
    · cases pre with
      | nil => exact absurd rfl hne
      | cons a pre => exact ⟨a, rfl, refs, hrefs, hf.1⟩
  · rintro ⟨hx, chain, hne, hd, hleads, a, ha, refs, hrefs, har⟩
    obtain ⟨rest, rfl⟩ : ∃ rest, chain = a :: rest := List.head?_eq_some_iff.1 ha
    -- the chain with the schema behind it closes at the schema
    have hwalk : (a :: rest ++ [x] ++ [x]).IsChain g.Leads :=
      List.isChain_append.2 ⟨hleads, List.isChain_singleton x, by
        rw [List.getLast?_concat]
        simpa using hx⟩
    have hkey : a ∈ Table.keys g := by
      rw [← Table.exists_find_iff]
      obtain ⟨b, tail, hb⟩ := List.exists_cons_of_ne_nil (l := rest ++ [x]) (by simp)
      rw [List.cons_append, hb, List.isChain_cons_cons] at hleads
      obtain ⟨next, hn, -⟩ := hleads.1
      exact ⟨next, hn⟩
    refine ⟨refs, hrefs, ⟨a :: rest ++ [x], x⟩, ⟨⟨_, rfl, ?_⟩, hd, by simp, by simp⟩, ?_⟩
    · exact (follows_cons_iff_isChain _).2 ⟨har, hkey, hwalk⟩
    · have hx : x ∉ a :: rest := fun h => List.disjoint_of_nodup_append hd h List.mem_cons_self
      rw [Cycle.loop, List.dropWhile_append_of_pos]
      · simp
      · intro b hb
        simpa using ne_of_mem_of_not_mem hb hx

end ReferenceGraph

namespace Node

open Text ReferenceGraph

/-! ## The graph of a document -/

/-- The component schema that a reference points to. -/
def component? (document : Node) (ref : String) : Option Node :=
  Table.find ref (Table.ofEntries (document.schemas.map fun e => (schemaRef e.1, e.2)))

/-- The first schema mentions the second one. -/
def RefersTo (document : Node) (a b : String) : Prop :=
  (document.component? b).isSome ∧ ∃ n, document.component? a = some n ∧ n.Mentions b

/-- A path or a component schema mentions the reference. -/
def IsStart (document : Node) (ref : String) : Prop :=
  (∃ e ∈ document.paths?.getD [], e.2.Mentions ref) ∨
    ∃ a n, document.component? a = some n ∧ n.Mentions ref

theorem mem_parts_of_get?_eq_some {k : String} {n p : Node} (h : n.get? k = some p) :
    p ∈ n.parts := by
  cases n with
  | map mark entries => exact List.mem_map.2 ⟨_, Table.mem_of_find_eq_some h, rfl⟩
  | _ => simp [get?] at h

theorem parts_of_entries?_eq_some {n : Node} {entries : List (Scalar × Node)}
    (h : n.entries? = some entries) : n.parts = entries.map Prod.snd := by
  cases n with
  | map mark es => rw [parts, Option.some_inj.1 h]
  | _ => simp [entries?] at h

section

variable {document : Node} (h : document.IsDecoded)

include h

theorem IsDecoded.coherent_of_mem_schemas {e : Scalar × Node} (he : e ∈ document.schemas) :
    e.2.Coherent := by
  rw [schemas] at he
  cases hc : document.get? "components" with
  | none => simp [hc] at he
  | some components =>
    cases hs : components.get? "schemas" with
    | none => simp [hc, hs] at he
    | some ss =>
      cases hes : ss.entries? with
      | none => simp [hc, hs, hes] at he
      | some entries =>
        rw [hc, Option.bind_some, hs, Option.bind_some, hes, Option.getD_some] at he
        refine (h.coherent (mem_parts_of_get?_eq_some hc) (mem_parts_of_get?_eq_some hs)).2 ?_
        rw [parts_of_entries?_eq_some hes]
        exact List.mem_map_of_mem he

theorem IsDecoded.coherent_of_mem_paths {e : Scalar × Node}
    (he : e ∈ document.paths?.getD []) : e.2.Coherent := by
  rw [paths?] at he
  cases hp : document.get? "paths" with
  | none => simp [hp] at he
  | some paths =>
    cases hes : paths.entries? with
    | none => simp [hp, hes] at he
    | some entries =>
      rw [hp, Option.bind_some, hes, Option.getD_some] at he
      refine (h.coherent (c := e.2) (mem_parts_of_get?_eq_some hp) ?_).1
      rw [parts_of_entries?_eq_some hes]
      exact List.mem_map_of_mem he

theorem IsDecoded.coherent_of_component? {ref : String} {n : Node}
    (hn : document.component? ref = some n) : n.Coherent := by
  rcases Table.mem_of_mem_putAll (Table.mem_of_find_eq_some hn) with hm | hm
  · exact absurd hm List.not_mem_nil
  · obtain ⟨e, he, heq⟩ := List.mem_map.1 hm
    obtain ⟨-, rfl⟩ := Prod.ext_iff.1 heq
    exact h.coherent_of_mem_schemas he

omit h in
theorem graph_eq_map (document : Node) : document.graph =
    (Table.ofEntries (document.schemas.map fun e => (schemaRef e.1, e.2))).map
      fun e => (e.1, e.2.refs) := by
  rw [graph, ← Table.ofEntries_map, List.map_map]
  rfl

omit h in
theorem find_graph (document : Node) (ref : String) :
    Table.find ref document.graph = (document.component? ref).map refs := by
  rw [graph_eq_map, Table.find_map, component?]

/-- The graph of the search has the edges of the document. -/
theorem leads_graph : document.graph.Leads = document.RefersTo := by
  funext a b
  rw [Leads, RefersTo, ← Table.exists_find_iff, find_graph, find_graph]
  apply propext
  constructor
  · rintro ⟨next, hnext, hb, r, hr⟩
    obtain ⟨n, hn, rfl⟩ := Option.map_eq_some_iff.1 hnext
    obtain ⟨m, hm, -⟩ := Option.map_eq_some_iff.1 hr
    exact ⟨by rw [hm]; rfl, n, hn, (mem_refs_iff (h.coherent_of_component? hn)).1 hb⟩
  · rintro ⟨hb, n, hn, hm⟩
    obtain ⟨m, hm'⟩ := Option.isSome_iff_exists.1 hb
    refine ⟨n.refs, by rw [hn]; rfl, ?_, m.refs, by rw [hm']; rfl⟩
    exact (mem_refs_iff (h.coherent_of_component? hn)).2 hm

/-- Chains start with what paths and schemas mention. -/
theorem exists_mem_starts_iff {ref : String} :
    (∃ refs ∈ document.starts, ref ∈ refs) ↔ document.IsStart ref := by
  -- a component that is written over counts neither here nor there
  have hdistinct :
      (Table.ofEntries (document.schemas.map fun e => (schemaRef e.1, e.2))).Distinct :=
    Table.Distinct.putAll _ List.nodup_nil
  simp only [starts, List.mem_append, IsStart]
  constructor
  · rintro ⟨refs, hrefs | hrefs, hr⟩
    · obtain ⟨e, he, rfl⟩ := List.mem_map.1 hrefs
      exact .inl ⟨e, he, (mem_refs_iff (h.coherent_of_mem_paths he)).1 hr⟩
    · rw [graph_eq_map, Table.values, List.map_map] at hrefs
      obtain ⟨e, he, rfl⟩ := List.mem_map.1 hrefs
      have hn : document.component? e.1 = some e.2 := hdistinct.find_of_mem he
      exact .inr ⟨e.1, e.2, hn, (mem_refs_iff (h.coherent_of_component? hn)).1 hr⟩
  · rintro (⟨e, he, hm⟩ | ⟨a, n, hn, hm⟩)
    · exact ⟨_, .inl (List.mem_map_of_mem he), (mem_refs_iff (h.coherent_of_mem_paths he)).2 hm⟩
    · refine ⟨n.refs, .inr ?_, (mem_refs_iff (h.coherent_of_component? hn)).2 hm⟩
      rw [graph_eq_map, Table.values, List.map_map]
      exact List.mem_map.2 ⟨_, Table.mem_of_find_eq_some hn, rfl⟩

end

/-! ## Cycles of a document -/

/-- A chain of other schemas leads from a start to the schema. -/
def HasApproach (document : Node) (x : String) : Prop :=
  ∃ chain ≠ [], (chain ++ [x]).Nodup ∧ (chain ++ [x]).IsChain document.RefersTo ∧
    ∃ a ∈ chain.head?, document.IsStart a

section

variable {document : Node} (h : document.IsDecoded)

include h

omit h in
theorem exists_isClosing_of_mem_cycles {c : Cycle} (hc : c ∈ document.cycles) :
    ∃ refs ∈ document.starts, document.graph.IsClosing refs c :=
  mem_closings_starts.1 (Cycle.mem_of_mem_distinct hc)

omit h in
/-- A loop that closes a chain from a start is found once. -/
theorem count_loop_cycles {refs : List String} (hrefs : refs ∈ document.starts) {c : Cycle}
    (hc : document.graph.IsClosing refs c) :
    document.cycles.countP (·.loop ~r c.loop) = 1 := by
  refine count_loop_distinct (fun d hd => ?_) (mem_closings_starts.2 ⟨refs, hrefs, hc⟩) (.refl _)
  obtain ⟨refs, -, hd⟩ := mem_closings_starts.1 hd
  exact hd.isLoop.nodup

theorem isLoop_of_mem_cycles {c : Cycle} (hc : c ∈ document.cycles) :
    IsLoop document.RefersTo c.loop := by
  obtain ⟨refs, -, hc⟩ := exists_isClosing_of_mem_cycles hc
  exact leads_graph h ▸ hc.isLoop

theorem isChain_walk_of_mem_cycles {c : Cycle} (hc : c ∈ document.cycles) :
    c.walk.IsChain document.RefersTo := by
  obtain ⟨refs, -, hc⟩ := exists_isClosing_of_mem_cycles hc
  exact leads_graph h ▸ hc.isChain_walk

/-- A loop of two or more schemas is found once. -/
theorem count_loop_eq_one {l : List String} (hl : IsLoop document.RefersTo l)
    (hlen : 2 ≤ l.length) : document.cycles.countP (·.loop ~r l) = 1 := by
  rw [← leads_graph h] at hl
  have hstarts : Table.values document.graph ⊆ document.starts := List.subset_append_right _ _
  obtain ⟨refs, hrefs, c, hc, rfl⟩ := hl.exists_closing hlen hstarts
  exact count_loop_cycles hrefs hc

theorem exists_isClosing_singleton_iff {x : String} :
    (∃ refs ∈ document.starts, ∃ c, document.graph.IsClosing refs c ∧ c.loop = [x]) ↔
      document.RefersTo x x ∧ document.HasApproach x := by
  rw [exists_closing_singleton_iff, leads_graph h]
  simp only [exists_mem_starts_iff h, HasApproach]

/-- A schema that refers to itself is found once, if it has an approach, or else not at all. -/
theorem count_selfLoop (x : String) :
    document.cycles.countP (·.loop = [x]) ≤ 1 ∧
      (document.cycles.countP (·.loop = [x]) = 1 ↔
        document.RefersTo x x ∧ document.HasApproach x) := by
  have hrot : document.cycles.countP (·.loop = [x]) = document.cycles.countP (·.loop ~r [x]) :=
    List.countP_congr fun c _ => by simp [List.isRotated_singleton_iff]
  rw [← exists_isClosing_singleton_iff h, hrot]
  by_cases hx : ∃ refs ∈ document.starts, ∃ c, document.graph.IsClosing refs c ∧ c.loop = [x]
  · -- a chain closes as this loop, and the loop is kept once
    obtain ⟨refs, hrefs, c, hc, hl⟩ := id hx
    have hone := count_loop_cycles hrefs hc
    rw [hl] at hone
    exact ⟨hone.le, fun _ => hx, fun _ => hone⟩
  · -- no chain does, and what is kept was found
    have hzero : document.cycles.countP (·.loop ~r [x]) = 0 := by
      rw [List.countP_eq_zero]
      intro c hc hl
      obtain ⟨refs, hrefs, hc⟩ := exists_isClosing_of_mem_cycles hc
      exact hx ⟨refs, hrefs, c, hc, by simpa [List.isRotated_singleton_iff] using hl⟩
    rw [hzero]
    exact ⟨Nat.zero_le 1, fun h => absurd h Nat.zero_ne_one, fun h => absurd h hx⟩

omit h in
theorem cycles_eq_nil (hs : document.schemas = []) : document.cycles = [] := by
  rw [List.eq_nil_iff_forall_not_mem]
  intro c hc
  obtain ⟨refs, -, hc⟩ := exists_isClosing_of_mem_cycles hc
  obtain ⟨rest, hl⟩ := Cycle.exists_dropWhile_eq_cons hc.closes
  have hloop := hc.isLoop
  rw [Cycle.loop, hl] at hloop
  simpa [graph, hs, Table.ofEntries, Table.putAll] using hloop.exists_mem_values.1

omit h in
/-- There is one message for each cycle. -/
theorem cycleObjections_eq (document : Node) :
    document.cycleObjections = document.cycles.map fun c => ⟨some c.ref, .cycle c⟩ := by
  rw [cycleObjections]
  split
  · rfl
  · next hmap =>
    have hs : document.schemas = [] := by
      rw [schemas]
      cases hc : document.get? "components" with
      | none => rfl
      | some components =>
        cases components with
        | map mark entries => simp [hc, isMap] at hmap
        | _ => rfl
    rw [cycles_eq_nil hs, List.map_nil]

end

/-- **The cycles of a document.** Of a decoded document, every loop of two or more component schemas
is found once, up to rotations. A schema that refers to itself is found as a loop of its own once,
or not at all; once just if a chain of other schemas leads to it from a reference in a path or a
schema. Nothing else is found. There is one message for each cycle, and it shows a walk from schema
to schema. -/
theorem cycles_exact {document : Node} (h : document.IsDecoded) :
    (∀ l, IsLoop document.RefersTo l → 2 ≤ l.length →
        document.cycles.countP (·.loop ~r l) = 1) ∧
      (∀ x, document.cycles.countP (·.loop = [x]) ≤ 1 ∧
        (document.cycles.countP (·.loop = [x]) = 1 ↔
          document.RefersTo x x ∧ document.HasApproach x)) ∧
      (∀ c ∈ document.cycles, IsLoop document.RefersTo c.loop) ∧
      document.cycleObjections.map (·.fault.message) =
        document.cycles.map (fun c => "Circular reference detected: " ++ joined " -> " c.walk) ∧
      ∀ c ∈ document.cycles, c.walk.IsChain document.RefersTo := by
  refine ⟨fun l hl hlen => count_loop_eq_one h hl hlen, count_selfLoop h,
    fun c hc => isLoop_of_mem_cycles h hc, ?_, fun c hc => isChain_walk_of_mem_cycles h hc⟩
  rw [cycleObjections_eq, List.map_map]
  rfl

/-- A document with schemas that consist of references. -/
def ofLinks (links : List (String × String)) : Node :=
  ofJson (.obj [("components", .obj [("schemas", .obj (links.map fun l =>
    (l.1, .obj [("$ref", .str (schemaPointer ++ l.2))])))])])

/-- Two schemas that refer to each other are found once, a third one that leads to them is not. -/
theorem cycles_of_pair :
    (ofLinks [("C", "A"), ("A", "B"), ("B", "A")]).IsDecoded ∧
      (ofLinks [("C", "A"), ("A", "B"), ("B", "A")]).cycles.countP
        (·.loop ~r ["#/components/schemas/A", "#/components/schemas/B"]) = 1 := by
  have hd : (ofLinks [("C", "A"), ("A", "B"), ("B", "A")]).IsDecoded := .json _
  have hc : (ofLinks [("C", "A"), ("A", "B"), ("B", "A")]).cycles =
      [⟨["#/components/schemas/A", "#/components/schemas/B"], "#/components/schemas/A"⟩] := by
    decide
  have hl := (cycles_exact hd).2.2.1 _ (hc ▸ List.mem_cons_self)
  exact ⟨hd, (cycles_exact hd).1 _ hl (by decide)⟩

end Node

end SequenceApi
