import SequenceApi.Proofs.Document.Origin

/-!
# Services do not disturb each other

The document of a service is made from the interactions with this service alone. Two diagrams are
run side by side, and one service is watched: an interaction with another service changes nothing
that the watched one has, and an interaction with it is answered in the same way in both, since its
shapes were counted from its own interactions. Only the list of tags, which every document has, is
that of the whole diagram.

## Main definitions

* `Diagram.only`: the interactions with one service
* `Interaction.addsTo`: the interactions that a service has a document for
* `Document.withTags`: a document with the tags of another diagram
* `Generation.Agree`: two generations that have the same of a service

## Main results

* `Usage.of_ofInteractions_filter`: shapes are counted from a service's own interactions
* `Diagram.has_documents`: which services have documents
* `Generation.agree_of_step_of_ne`, `Generation.Agree.step`: one interaction with another service,
  and one with the watched service
* `Generation.Agree.steps`: all interactions of the one run, and those of the service in the other
* `Generation.service_of_steps`: what one service keeps through a run
* `Diagram.documents_isolated`: a document depends on the service's interactions and on the tags
-/

namespace SequenceApi

/-- The diagram with the interactions with one service alone. -/
def Diagram.only (d : Diagram) (service : String) : Diagram :=
  { d with interactions := d.interactions.filter (·.target = service) }

/-- The interaction adds an operation to the service: it has a path and names the service. -/
def Interaction.addsTo (service : String) (i : Interaction) : Bool :=
  i.path != "" && i.target != "" && i.target == service

/-- The document with other tags. -/
def Document.withTags (tags : List String) (x : Document) : Document :=
  { x with tags }

/-! ## Counted shapes -/

namespace Usage

variable {u u' : Usage} {i : Interaction} {service : String}

theorem of_put_self (service : String) (counts : Table String Nat) (u : Usage) :
    of (Table.put service counts u) service = counts := by
  rw [of, Table.find_put_self, Option.getD_some]

/-- Every service has counts of its own. -/
theorem of_add_of_ne (h : i.target ≠ service) (u : Usage) : (u.add i).of service = u.of service := by
  rw [add]
  split
  · rfl
  · split
    · rw [of, Table.find_put_of_ne h.symm, of]
    · rfl

/-- What is counted depends on the counts of the interaction's own service. -/
theorem of_add_congr (h : u.of i.target = u'.of i.target) :
    (u.add i).of i.target = (u'.add i).of i.target := by
  rw [add, add]
  split
  · exact h
  · split
    · rw [of_put_self, of_put_self, h]
    · exact h

theorem of_foldl_add_filter (is : List Interaction) (h : u.of service = u'.of service) :
    (is.foldl add u).of service =
      ((is.filter (·.target = service)).foldl add u').of service := by
  -- Induction on the interactions; the second counts stand still while others are counted.
  induction is generalizing u u' with
  | nil => exact h
  | cons i is ih =>
    by_cases hi : i.target = service
    · subst hi
      rw [List.filter_cons_of_pos (by simp)]
      exact ih (of_add_congr h)
    · rw [List.filter_cons_of_neg (by simpa using hi)]
      exact ih ((of_add_of_ne hi u).trans h)

/-- The shapes of a service are counted from the interactions with it. -/
theorem of_ofInteractions_filter (is : List Interaction) (service : String) :
    (ofInteractions is).of service =
      (ofInteractions (is.filter (·.target = service))).of service :=
  of_foldl_add_filter is rfl

end Usage

/-! ## Services that are there -/

namespace Generation

theorem has_put (service name : String) (s : Service) (t : Table String Service) :
    Table.has service (Table.put name s t) = (Table.has service t || name == service) := by
  rw [Table.has, Table.has]
  by_cases hname : name = service
  · subst hname
    rw [Table.find_put_self, beq_self_eq_true, Bool.or_true, Option.isSome_some]
  · rw [Table.find_put_of_ne (Ne.symm hname), beq_false_of_ne hname, Bool.or_false]

/-- A service is there if an interaction has added something to it. -/
theorem has_of_steps {settings : Settings} {usage : Usage} {g h : Generation}
    (hg : g.services = []) {is : List Interaction} (hsteps : g.steps settings usage is = .ok h)
    (service : String) :
    Table.has service h.services = is.any (Interaction.addsTo service) := by
  refine invariant_of_steps
    (P := fun done g => Table.has service g.services = done.any (Interaction.addsTo service))
    (by rw [hg]; rfl) ?_ hsteps
  intro done i g₁ g₂ _ hdone hstep
  rw [List.any_append, List.any_cons, List.any_nil, Bool.or_false, ← hdone, Interaction.addsTo]
  rcases step_cases hstep with ⟨hskip, rfl⟩ | ⟨hpath, htarget, s, -, hservices⟩
  · rcases hskip with hskip | hskip <;> simp [hskip]
  · rw [hservices, has_put, bne_iff_ne.2 hpath, bne_iff_ne.2 htarget, Bool.true_and, Bool.true_and]

end Generation

/-! ## Two runs, one service -/

namespace Generation

/-- The two generations have the same of a service: the same unfinished document, or none. -/
def Agree (service : String) (g g' : Generation) : Prop :=
  Table.find service g.services = Table.find service g'.services

variable {settings : Settings} {usage usage' : Usage} {g g₁ h : Generation} {service : String}
  {i : Interaction}

/-- An interaction with another service leaves the service as it is. -/
theorem agree_of_step_of_ne (hstep : g.step settings usage i = .ok h) (hi : i.target ≠ service) :
    h.Agree service g := by
  rcases step_cases hstep with ⟨-, rfl⟩ | ⟨-, -, s, -, hservices⟩
  · rfl
  · rw [Agree, hservices, Table.find_put_of_ne hi.symm]

theorem Agree.service_eq (hg : g.Agree service g₁) (hu : usage.of service = usage'.of service) :
    g.service settings usage service = g₁.service settings usage' service := by
  rw [Agree] at hg
  rw [Generation.service, Generation.service, hg, hu]

/-- An interaction with the service succeeds in the other run as well, with the same effect. -/
theorem Agree.step (hg : g.Agree i.target g₁) (hu : usage.of i.target = usage'.of i.target)
    (hstep : g.step settings usage i = .ok h) :
    ∃ h₁, g₁.step settings usage' i = .ok h₁ ∧ h.Agree i.target h₁ := by
  rcases step_cases hstep with ⟨hskip, rfl⟩ | ⟨hpath, htarget, s, hs, hservices⟩
  · exact ⟨g₁, step_of_skip hskip, hg⟩
  · -- the service is there in both, or new in both with the same counts
    rw [hg.service_eq hu] at hs
    obtain ⟨h₁, hstep₁, hservices₁⟩ := exists_step hpath htarget hs
    refine ⟨h₁, hstep₁, ?_⟩
    rw [Agree, hservices, hservices₁, Table.find_put_self, Table.find_put_self]

/-- A run of all interactions, and a run of those with the service. -/
theorem Agree.steps (is : List Interaction) (hu : usage.of service = usage'.of service) :
    ∀ {g g₁ : Generation}, g.Agree service g₁ → g.steps settings usage is = .ok h →
      ∃ h₁, g₁.steps settings usage' (is.filter (·.target = service)) = .ok h₁ ∧
        h.Agree service h₁ := by
  -- Induction on the interactions of the first run; the second waits while others have their turn.
  induction is with
  | nil =>
    intro g g₁ hg hsteps
    obtain rfl := Except.ok.inj hsteps
    exact ⟨g₁, rfl, hg⟩
  | cons i is ih =>
    intro g g₁ hg hsteps
    obtain ⟨g', hstep, hrest⟩ := steps_cons hsteps
    by_cases hi : i.target = service
    · subst hi
      obtain ⟨g₁', hstep₁, hg'⟩ := hg.step hu hstep
      obtain ⟨h₁, hrest₁, hh⟩ := ih hg' hrest
      refine ⟨h₁, ?_, hh⟩
      rw [List.filter_cons_of_pos (by simp), Generation.steps, hstep₁]
      exact hrest₁
    · have hg' : g'.Agree service g₁ := (agree_of_step_of_ne hstep hi).trans hg
      rw [List.filter_cons_of_neg (by simpa using hi)]
      exact ih hg' hrest

/-- What holds of a service when it is new holds of one that is not there yet. -/
theorem service_of_find_eq_none {P : Service → Prop}
    (hnew : ∀ title, P { title, registry := { usage := usage.of service } })
    (hg : Table.find service g.services = none) {s : Service}
    (hs : g.service settings usage service = .ok s) : P s := by
  rw [Generation.service, hg] at hs
  cases htitle : Template.render (settings.get .titleTemplate) service with
  | error e => simp [htitle, Except.map] at hs
  | ok title =>
    simp only [htitle, Except.map, Except.ok.injEq] at hs
    exact hs ▸ hnew title

/-- What holds of a service at the start, and is kept by each interaction with it, holds of it at
the end. -/
theorem service_of_steps {P : List Interaction → Service → Prop} (hservice : service ≠ "")
    {is : List Interaction} (hpaths : ∀ i ∈ is, i.path ≠ "")
    (hg : ∀ s, g.service settings usage service = .ok s → P [] s)
    (hadd : ∀ done, ∀ i ∈ is, ∀ s, P done s → P (done ++ [i]) (s.add settings i).1)
    (hsteps : g.steps settings usage is = .ok h) :
    ∀ s, h.service settings usage service = .ok s → P (is.filter (·.target = service)) s := by
  refine invariant_of_steps
    (P := fun done g => ∀ s, g.service settings usage service = .ok s →
      P (done.filter (·.target = service)) s) hg ?_ hsteps
  intro done i g₁ g₂ his hg₁ hstep s hs
  rw [List.filter_append]
  -- the interactions done grow by one of the service, or by none
  by_cases hi : i.target = service
  · subst hi
    rw [List.filter_cons_of_pos (by simp), List.filter_nil]
    rcases step_cases hstep with ⟨hskip, -⟩ | ⟨-, -, s₁, hs₁, hservices⟩
    · -- only an interaction without a path or a target is skipped
      exact absurd hskip (not_or.2 ⟨hpaths i his, hservice⟩)
    · rw [Generation.service, hservices, Table.find_put_self] at hs
      obtain rfl := Except.ok.inj hs
      exact hadd _ i his s₁ (hg₁ s₁ hs₁)
  · rw [List.filter_cons_of_neg (by simpa using hi), List.filter_nil, List.append_nil]
    rw [(agree_of_step_of_ne hstep hi).service_eq rfl] at hs
    exact hg₁ s hs

end Generation

/-! ## Documents -/

namespace Diagram

variable {settings : Settings} {d d' : Diagram} {documents documents' : Table String Document}

/-- The document of a service is made from what the run has of it at the end. -/
theorem exists_find (h : d.documents settings = .ok documents) :
    ∃ g, d.blankGeneration.steps settings (Usage.ofInteractions d.interactions) d.interactions =
        .ok g ∧
      ∀ service, Table.find service documents =
        (Table.find service g.services).map
          (Service.document settings (Generation.tags d.interactions)) := by
  obtain ⟨g, hsteps, rfl⟩ := exists_generation h
  exact ⟨g, hsteps, fun service => Table.find_map _ service g.services⟩

theorem exists_find_of_steps {g : Generation}
    (h : d.blankGeneration.steps settings (Usage.ofInteractions d.interactions) d.interactions =
      .ok g) :
    ∃ documents, d.documents settings = .ok documents ∧
      ∀ service, Table.find service documents =
        (Table.find service g.services).map
          (Service.document settings (Generation.tags d.interactions)) := by
  rw [documents_eq, h]
  exact ⟨_, rfl, fun service => Table.find_map _ service g.services⟩

theorem documents_congr (h : d.interactions = d'.interactions) :
    d.documents settings = d'.documents settings := by
  rw [documents, documents, generate, generate, h]

/-- The document of a service is the one that it has in a diagram of its own. -/
theorem exists_own_documents (h : d.documents settings = .ok documents) (service : String) :
    ∃ own, (d.only service).documents settings = .ok own ∧
      Table.find service documents =
        (Table.find service own).map (Document.withTags (Generation.tags d.interactions)) := by
  obtain ⟨g, hsteps, hfind⟩ := exists_find h
  have hblank : d.blankGeneration.Agree service (d.only service).blankGeneration := rfl
  have hcounts := Usage.of_ofInteractions_filter d.interactions service
  obtain ⟨g₁, hsteps₁, hagree⟩ := hblank.steps d.interactions hcounts hsteps
  obtain ⟨own, hown, hfind₁⟩ := exists_find_of_steps (d := d.only service) hsteps₁
  refine ⟨own, hown, ?_⟩
  -- the two documents are made of one service, with the tags of their own diagrams
  rw [hfind, hfind₁, hagree, Option.map_map]
  rfl

/-- A service has a document if an interaction adds something to it. -/
theorem has_documents (h : d.documents settings = .ok documents) (service : String) :
    Table.has service documents = d.interactions.any (Interaction.addsTo service) := by
  obtain ⟨g, hsteps, hfind⟩ := exists_find h
  rw [← Generation.has_of_steps rfl hsteps service, Table.has, Table.has, hfind, Option.isSome_map]

/-- An interaction without a target makes no service, so every service has a name. -/
theorem service_ne_empty (h : d.documents settings = .ok documents) {service : String} {x : Document}
    (hx : Table.find service documents = some x) : service ≠ "" := by
  rintro rfl
  have hhas := has_documents h ""
  rw [Table.has, hx, Option.isSome_some] at hhas
  obtain ⟨i, -, hi⟩ := List.any_eq_true.1 hhas.symm
  obtain ⟨⟨-, htarget⟩, hnone⟩ : (i.path ≠ "" ∧ i.target ≠ "") ∧ i.target = "" := by
    simpa [Interaction.addsTo] using hi
  exact htarget hnone

/-- **Services are isolated.** There is a document for each service that an interaction adds to. It
is the one that the service has in the diagram with its own interactions alone, but for the tags,
which are those of all interactions. So any two diagrams with the same interactions of the service
have the same document of it but for the tags. -/
theorem documents_isolated (settings : Settings) (d : Diagram) (service : String)
    {documents : Table String Document} (h : d.documents settings = .ok documents) :
    Table.has service documents = d.interactions.any (Interaction.addsTo service) ∧
    (∃ own, (d.only service).documents settings = .ok own ∧
      Table.find service documents =
        (Table.find service own).map (Document.withTags (Generation.tags d.interactions))) ∧
    ∀ (d' : Diagram) (documents' : Table String Document),
      d'.documents settings = .ok documents' →
      (d'.only service).interactions = (d.only service).interactions →
      Table.find service documents' =
        (Table.find service documents).map (Document.withTags (Generation.tags d'.interactions)) := by
  obtain ⟨own, hown, hfind⟩ := exists_own_documents h service
  refine ⟨has_documents h service, ⟨own, hown, hfind⟩, fun d' documents' h' hsame => ?_⟩
  -- both diagrams have the service's own diagram in common
  obtain ⟨own', hown', hfind'⟩ := exists_own_documents h' service
  rw [documents_congr hsame, hown] at hown'
  obtain rfl := Except.ok.inj hown'
  rw [hfind', hfind, Option.map_map]
  rfl

/-- Two services whose requests take turns. All bodies have one shape, which is shared by those of
the shop. -/
def neighbours : Diagram :=
  { participants := ["App", "Shop", "Bank"]
    interactions :=
      [{ source := "App", target := "Shop", method := .post, path := "/carts", line := 1
         body := .obj [("name", .str "first")] },
        { source := "App", target := "Bank", method := .post, path := "/accounts", line := 2
          body := .obj [("name", .str "owner")], tags := ["money"] },
        { source := "App", target := "Shop", method := .put, path := "/carts", line := 3
          body := .obj [("name", .str "second")] }]
    remarks := [] }

theorem documents_isolated_of_neighbours :
    ∃ documents own, neighbours.documents Settings.defaults = .ok documents ∧
      (neighbours.only "Shop").documents Settings.defaults = .ok own ∧
      Table.has "Shop" documents = true ∧
      Table.find "Shop" documents = (Table.find "Shop" own).map (Document.withTags ["money"]) := by
  obtain ⟨documents, h⟩ := exists_documents_defaults neighbours
  obtain ⟨hhas, ⟨own, hown, hfind⟩, -⟩ :=
    documents_isolated Settings.defaults neighbours "Shop" h
  exact ⟨documents, own, h, hown, hhas, hfind⟩

end Diagram

end SequenceApi
