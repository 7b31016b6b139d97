import SequenceApi.Proofs.Document.Unshared

/-!
# Sharing preserves meaning

A diagram's documents are made twice, once with its shapes counted and once with nothing counted, so
that no shape is shared. At every step the two have the same services, paths and operations. Where
the one has a schema, the other has the same schema or a reference to a component of its shape, and
the component stays what it is until the documents are finished.

## Main definitions

* `Service.Unshares`: a service and the same service without components

## Main results

* `Service.Unshares.add`: one more interaction
* `Generation.Unshares.steps`: all interactions
* `Diagram.documents_unshared`: documents mean the same without their components
-/

namespace SequenceApi

open Json (Reordered)
open Schema (IsInferred)

namespace Service

/-! ## Placing a schema -/

theorem isInferred_of_schema? {i : Interaction} {s : Json} (h : Usage.schema? i = some s) :
    IsInferred s := by
  rw [Usage.schema?] at h
  split at h
  · cases h
  · rw [Schema.ofBody?] at h
    split at h
    · exact ⟨_, Option.some_inj.1 h⟩
    · cases h

/-- What is placed after a registry `r`, and what is placed where nothing is counted. -/
structure Placed.Unshares (r : Registry) (x y : Placed) : Prop where
  ofBodies : x.registry.OfBodies
  grown : r.Extends x.registry
  stands : x.registry.Stands x.schema y.schema
  plain : y.registry = {}

section

variable {r : Registry} {otherwise : Json}

/-- A schema that is no reference stays. -/
theorem Placed.Unshares.stay (h : r.OfBodies) (hs : ∀ ref, otherwise ≠ .obj [("$ref", .str ref)])
    (events events' : List Event) :
    Placed.Unshares r ⟨otherwise, r, events⟩ ⟨otherwise, {}, events'⟩ :=
  ⟨h, .refl r, .inline hs, rfl⟩

theorem place_unshares (h : r.OfBodies) (hs : ∀ ref, otherwise ≠ .obj [("$ref", .str ref)])
    (i : Interaction) : Placed.Unshares r (place r otherwise i) (place {} otherwise i) := by
  rw [place, place]
  split
  · exact .stay h hs _ _
  · next schema hschema =>
    -- a schema is placed here, and inlined there
    obtain ⟨hof, hext, hstands⟩ := h.extract (isInferred_of_schema? hschema)
    have hplain := @Registry.extract_of_usage_nil {} rfl schema
    rw [hplain]
    exact ⟨hof, hext, hstands, rfl⟩

theorem placeReply_unshares (h : r.OfBodies) (i : Interaction) :
    Placed.Unshares r (placeReply r i) (placeReply {} i) := by
  have hempty (ref : String) : emptyObject ≠ .obj [("$ref", .str ref)] := by simp [emptyObject]
  rw [placeReply, placeReply]
  split
  · exact .stay h hempty _ _
  · exact place_unshares h hempty i

theorem placeRequest_unshares (h : r.OfBodies) (i : Interaction) :
    Placed.Unshares r (placeRequest r i) (placeRequest {} i) := by
  have hany (ref : String) : anyObject ≠ .obj [("$ref", .str ref)] := by simp [anyObject]
  rw [placeRequest, placeRequest]
  split
  · exact place_unshares h hany i
  · exact .stay h hany _ _

end

/-! ## Services -/

/-- Paths with the same operations, where each schema of the first stands for that of the second. -/
abbrev PathsStand (r : Registry) (paths paths' : Paths) : Prop :=
  Table.Rel (Table.Rel (Operation.Related r.Stands)) paths paths'

section

variable {r r' : Registry} {paths paths' : Paths}

theorem PathsStand.mono (h : PathsStand r paths paths') (hr : r.Extends r') :
    PathsStand r' paths paths' :=
  h.imp fun _ _ hoperations => hoperations.imp fun _ _ ho => ho.imp fun _ _ hv => hv.mono hr

theorem PathsStand.operations (h : PathsStand r paths paths') (template : String) :
    Table.Rel (Operation.Related r.Stands) ((Table.find template paths).getD [])
      ((Table.find template paths').getD []) := by
  have hfind := Table.Rel.find h template
  cases hs : Table.find template paths with
  | none =>
    cases hp : Table.find template paths' with
    | none => exact .nil
    | some operations' => simp [hs, hp] at hfind
  | some operations =>
    cases hp : Table.find template paths' with
    | none => simp [hs, hp] at hfind
    | some operations' => simpa [hs, hp] using hfind

/-- An operation takes its place under its path and method, for the first time or again. -/
theorem PathsStand.put (h : PathsStand r paths paths') (template : String) (m : Method)
    {o o' : Operation} (ho : Operation.Related r.Stands o o') :
    PathsStand r
      (Table.put template (Table.put m o ((Table.find template paths).getD [])) paths)
      (Table.put template (Table.put m o' ((Table.find template paths').getD [])) paths') :=
  Table.Rel.put h template ((h.operations template).put m ho)

end

/-- A service `s` and the same service `p` without components. -/
structure Unshares (s p : Service) : Prop where
  title : s.title = p.title
  schemes : s.schemes = p.schemes
  ofBodies : s.registry.OfBodies
  paths : PathsStand s.registry s.paths p.paths
  plain : p.registry = {}

/-- A new service has no paths and no components. -/
theorem Unshares.new (title : String) (usage : Table String Nat) :
    Unshares { title, registry := { usage } } { title } :=
  ⟨rfl, rfl, Registry.ofBodies_ofUsage usage, .nil, rfl⟩

/-- One more interaction. -/
theorem Unshares.add {s p : Service} (h : s.Unshares p) (settings : Settings) (i : Interaction) :
    (s.add settings i).1.Unshares (p.add settings i).1 := by
  obtain ⟨title, paths, schemes, registry⟩ := p
  obtain ⟨rfl, rfl, hof, hpaths, rfl⟩ := h
  have hreply := placeReply_unshares hof i
  have hrequest := placeRequest_unshares hreply.ofBodies i
  -- what was placed before still stands for the same
  have hgrown := hpaths.mono (hreply.grown.trans hrequest.grown)
  refine ⟨rfl, rfl, hrequest.ofBodies, ?_, ?_⟩
  · simp only [Service.add, hreply.plain]
    exact hgrown.put _ i.method
      (.intro settings i _ (hreply.stands.mono hrequest.grown) hrequest.stands)
  · simp only [Service.add, hreply.plain]
    exact hrequest.plain

/-- The finished document means the same without its components. -/
theorem Unshares.document {s p : Service} (h : s.Unshares p) (settings : Settings)
    (tags : List String) :
    Reordered (s.document settings tags).unshared.shape (p.document settings tags).shape := by
  obtain ⟨title, paths, schemes, registry⟩ := p
  obtain ⟨rfl, rfl, hof, hpaths, rfl⟩ := h
  refine Document.reordered_toJson _ ?_
  change Table.Rel _ (mapPaths _ (mapPaths _ s.paths)) (mapPaths _ paths)
  rw [mapPaths_mapPaths]
  exact related_mapPaths hpaths fun _ _ hv => hv.resolve

end Service

namespace Generation

/-! ## All interactions -/

/-- The same services in the same order, with and without components. -/
def Unshares (g g' : Generation) : Prop :=
  Table.Rel Service.Unshares g.services g'.services

variable {settings : Settings} {usage : Usage}

/-- The service of an interaction is there in both, or is new in both. -/
theorem Unshares.service {g g' : Generation} (h : g.Unshares g') {name : String} {s : Service}
    (hs : g.service settings usage name = .ok s) :
    ∃ p, g'.service settings [] name = .ok p ∧ s.Unshares p := by
  have hfind := Table.Rel.find h name
  rw [Generation.service] at hs ⊢
  cases hg : Table.find name g.services with
  | some t =>
    cases hg' : Table.find name g'.services with
    | none => simp [hg, hg'] at hfind
    | some p =>
      rw [hg] at hs
      obtain rfl : t = s := Except.ok.inj hs
      exact ⟨p, rfl, by simpa [hg, hg'] using hfind⟩
  | none =>
    cases hg' : Table.find name g'.services with
    | some p => simp [hg, hg'] at hfind
    | none =>
      -- new in both: the title does not depend on what is counted
      simp only [hg] at hs
      cases htitle : Template.render (settings.get .titleTemplate) name with
      | error e => simp [htitle, Except.map] at hs
      | ok title =>
        simp only [htitle, Except.map, Except.ok.injEq] at hs
        subst hs
        exact ⟨{ title }, rfl, .new title _⟩

theorem Unshares.step {g g' h : Generation} (hg : g.Unshares g') {i : Interaction}
    (hstep : g.step settings usage i = .ok h) :
    ∃ h', g'.step settings [] i = .ok h' ∧ h.Unshares h' := by
  rw [Generation.step] at hstep ⊢
  split at hstep
  · next hskip =>
    obtain rfl := Except.ok.inj hstep
    exact ⟨g', if_pos hskip, hg⟩
  · next hskip =>
    rw [if_neg hskip]
    split at hstep
    · cases hstep
    · next s hs =>
      obtain ⟨p, hp, hsp⟩ := hg.service hs
      obtain rfl := Except.ok.inj hstep
      rw [hp]
      exact ⟨_, rfl, Table.Rel.put hg i.target (hsp.add settings i)⟩

theorem Unshares.steps {g g' h : Generation} (hg : g.Unshares g') (is : List Interaction)
    (hsteps : g.steps settings usage is = .ok h) :
    ∃ h', g'.steps settings [] is = .ok h' ∧ h.Unshares h' := by
  -- Induction on the interactions, from any two generations that agree.
  induction is generalizing g g' with
  | nil =>
    obtain rfl := Except.ok.inj hsteps
    exact ⟨g', rfl, hg⟩
  | cons i is ih =>
    rw [Generation.steps] at hsteps ⊢
    split at hsteps
    · next g₁ hstep =>
      obtain ⟨g₁', hstep', hg₁⟩ := hg.step hstep
      rw [hstep']
      exact ih hg₁ hsteps
    · cases hsteps

/-- The documents of a run mean the same without their components. -/
theorem run_unshares {is : List Interaction} {documents : Table String Document}
    {events : List Event} (h : run settings usage is = .ok (documents, events)) :
    ∃ plain events', run settings [] is = .ok (plain, events') ∧
      Table.Rel (fun x y => Reordered x.unshared.shape y.shape) documents plain := by
  simp only [run] at h ⊢
  generalize (is.filter (·.target != "")).flatMap Usage.noSchema = counted at h ⊢
  have hstart : Unshares ⟨[], counted⟩ ⟨[], counted⟩ := List.Forall₂.nil
  cases hsteps : Generation.steps settings usage ⟨[], counted⟩ is with
  | error e => simp [hsteps, Except.map] at h
  | ok g =>
    obtain ⟨g', hsteps', hg⟩ := hstart.steps is hsteps
    rw [hsteps']
    rw [hsteps] at h
    obtain ⟨rfl, -⟩ := Prod.mk.inj (Except.ok.inj h)
    exact ⟨_, _, rfl, Table.Rel.map hg fun s p hsp => hsp.document settings (tags is)⟩

end Generation

/-- **Sharing preserves meaning.** Documents mean the same without their components: with each
reference replaced by the component that it means, they are the documents that a diagram has if no
shape is shared, up to the order of keys and to the examples of schemas. -/
theorem Diagram.documents_unshared (settings : Settings) (d : Diagram)
    {documents : Table String Document} (h : d.documents settings = .ok documents) :
    ∃ plain, d.plainDocuments settings = .ok plain ∧
      Table.Rel (fun x y => Reordered x.unshared.shape y.shape) documents plain := by
  rw [Diagram.documents, generate] at h
  split at h
  · next shared events hrun =>
    obtain rfl := Except.ok.inj h
    obtain ⟨plain, events', hplain, hrel⟩ := Generation.run_unshares hrun
    exact ⟨plain, by rw [plainDocuments, hplain], hrel⟩
  · cases h

/-- Two requests with bodies of one shape, whose keys are in different orders. -/
def twins : Diagram :=
  { participants := ["App", "Shop"]
    interactions :=
      [{ source := "App", target := "Shop", method := .post, path := "/carts", line := 1
         body := .obj [("name", .str "first"), ("size", .int 1)] },
        { source := "App", target := "Shop", method := .put, path := "/carts", line := 2
          body := .obj [("size", .int 2), ("name", .str "second")] }]
    remarks := [] }

/-- The service has a document, with an operation for each of the two. -/
theorem Diagram.documents_unshared_of_twins :
    ∃ documents plain x, twins.documents Settings.defaults = .ok documents ∧
      twins.plainDocuments Settings.defaults = .ok plain ∧
      Table.find "Shop" documents = some x ∧
      x.paths.map (fun e => (e.1, Table.keys e.2)) = [("/carts", [.post, .put])] ∧
      Table.Rel (fun x y => Reordered x.unshared.shape y.shape) documents plain := by
  have hpaths : (twins.documents Settings.defaults).toOption.any (fun documents =>
      (Table.find "Shop" documents).any fun x =>
        x.paths.map (fun e => (e.1, Table.keys e.2)) == [("/carts", [.post, .put])]) = true := by
    decide +kernel
  obtain ⟨documents, h⟩ : ∃ documents, twins.documents Settings.defaults = .ok documents :=
    ⟨_, rfl⟩
  rw [h] at hpaths
  obtain ⟨x, hx, hpaths⟩ : ∃ x, Table.find "Shop" documents = some x ∧
      (x.paths.map (fun e => (e.1, Table.keys e.2)) == [("/carts", [.post, .put])]) = true :=
    (Option.any_eq_true ..).1 hpaths
  obtain ⟨plain, hplain, hrel⟩ := Diagram.documents_unshared Settings.defaults twins h
  exact ⟨documents, plain, x, h, hplain, hx, beq_iff_eq.1 hpaths, hrel⟩

end SequenceApi
