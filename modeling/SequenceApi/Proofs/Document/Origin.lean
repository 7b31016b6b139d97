import SequenceApi.Document.Generate
import SequenceApi.Proofs.Schema.Registry

/-!
# Where documents come from

Whatever stands in a document comes from an interaction with its service. Each operation is that of
an interaction; a schema in it is inferred from a body, or is one of the two that stand for no body,
or is a reference to a component that the document has; and each component is inferred from a body.
One more interaction keeps this, since components are never replaced, and so it holds at the end.

With a template that never fails, there are documents for every diagram. The default template is
such a one.

## Main definitions

* `Service.IsPlaced`: what may stand for a body
* `Service.StemsFrom`: a service that is made from some interactions

## Main results

* `Generation.step_cases`, `Generation.invariant_of_steps`: what one interaction does, and what a
  whole run keeps
* `Service.mem_paths_add`, `Generation.services_of_steps`: the same for the operations of a service,
  and for all services
* `Service.StemsFrom.add`, `Generation.StemsFrom.steps`: one more interaction, and all of them
* `Diagram.exists_service`: what a document is made from
* `Diagram.exists_documents`, `Diagram.exists_documents_defaults`: there are documents
-/

namespace SequenceApi

/-- The schema is inferred from a body of an interaction with the service. -/
def Interaction.HaveSchema (is : List Interaction) (service : String) (v : Json) : Prop :=
  ∃ i ∈ is, i.target = service ∧ v = Schema.infer i.body

theorem Usage.eq_infer_of_schema? {i : Interaction} {s : Json} (h : schema? i = some s) :
    s = Schema.infer i.body := by
  unfold schema? at h
  split at h
  · cases h
  · unfold Schema.ofBody? at h
    split at h
    · exact (Option.some_inj.1 h).symm
    · cases h

/-! ## Placing a schema -/

section

variable {P : Json → Prop} {r r' : Registry}

/-- The components belong to their names, and each of them is of a kind. -/
structure Registry.Keeps (P : Json → Prop) (r : Registry) : Prop where
  sound : r.Sound
  components : ∀ e ∈ r.components, P e.2

namespace Service

/-- What may stand for a body, where the schemas of bodies are of a kind. -/
inductive IsPlaced (P : Json → Prop) (r : Registry) : Json → Prop where
  | empty : IsPlaced P r emptyObject
  | any : IsPlaced P r anyObject
  | inline {v : Json} (h : P v) : IsPlaced P r v
  | component {name : String} {schema : Json} (h : Table.find name r.components = some schema) :
      IsPlaced P r (componentRef name)

theorem IsPlaced.mono {v : Json} (h : IsPlaced P r v) (hr : r.Extends r') : IsPlaced P r' v := by
  cases h with
  | empty => exact .empty
  | any => exact .any
  | inline h => exact .inline h
  | component h => exact .component (hr _ _ h)

/-- What is placed after a registry `r`. -/
structure Placed.Fits (P : Json → Prop) (r : Registry) (x : Placed) : Prop where
  keeps : x.registry.Keeps P
  grown : r.Extends x.registry
  placed : IsPlaced P x.registry x.schema

end Service

open Service

/-- A schema that is shared stays, or a reference to its component takes its place. -/
theorem Registry.Keeps.share (h : r.Keeps P) (base : String) {s : Json} (hs : P s) :
    (r.share base s).registry.Keeps P ∧
      IsPlaced P (r.share base s).registry (r.share base s).schema := by
  have hsound := h.sound.share base s
  rcases share_cases r base s with ⟨-, hx⟩ | ⟨-, name, hname, hx⟩ | ⟨-, -, hx⟩
  · rw [hx]
    exact ⟨h, .inline hs⟩
  · rw [hx]
    obtain ⟨schema, hfind, -⟩ := h.sound.component hname
    exact ⟨h, .component hfind⟩
  · rw [hx] at hsound ⊢
    refine ⟨⟨hsound, fun e he => ?_⟩, .component (Table.find_put_self ..)⟩
    rcases Table.mem_of_mem_put he with he | rfl
    · exact h.components e he
    · exact hs

theorem Registry.Keeps.extract (h : r.Keeps P) {s : Json} (hs : P s) :
    (r.extract s).registry.Keeps P ∧ r.Extends (r.extract s).registry ∧
      IsPlaced P (r.extract s).registry (r.extract s).schema := by
  rw [Registry.extract]
  split
  · exact ⟨h, .refl r, .inline hs⟩
  · obtain ⟨hkeeps, hplaced⟩ := h.share (componentName s) hs
    exact ⟨hkeeps, .share r _ s, hplaced⟩

namespace Service

variable {i : Interaction}

theorem fits_place (h : r.Keeps P) {otherwise : Json} (ho : ∀ r, IsPlaced P r otherwise)
    (hi : P (Schema.infer i.body)) : (place r otherwise i).Fits P r := by
  rw [place]
  split
  · exact ⟨h, .refl r, ho r⟩
  · next schema hschema =>
    rw [← Usage.eq_infer_of_schema? hschema] at hi
    obtain ⟨hkeeps, hgrown, hplaced⟩ := h.extract hi
    exact ⟨hkeeps, hgrown, hplaced⟩

theorem fits_placeReply (h : r.Keeps P) (hi : P (Schema.infer i.body)) :
    (placeReply r i).Fits P r := by
  rw [placeReply]
  split
  · exact ⟨h, .refl r, .empty⟩
  · exact fits_place h (fun _ => .empty) hi

theorem fits_placeRequest (h : r.Keeps P) (hi : P (Schema.infer i.body)) :
    (placeRequest r i).Fits P r := by
  rw [placeRequest]
  split
  · exact fits_place h (fun _ => .any) hi
  · exact ⟨h, .refl r, .any⟩

end Service

end

/-! ## Services -/

/-- The operation of an interaction with the service, with schemas that may stand there. -/
def Operation.StemsFrom (settings : Settings) (is : List Interaction) (service : String)
    (r : Registry) (o : Operation) : Prop :=
  ∃ i ∈ is, i.target = service ∧ ∃ security reply request,
    o = Service.operation settings i security reply request ∧
      Service.IsPlaced (Interaction.HaveSchema is service) r reply ∧
      Service.IsPlaced (Interaction.HaveSchema is service) r request

/-- A service that is made from interactions with it. -/
structure Service.StemsFrom (settings : Settings) (is : List Interaction) (name : String)
    (s : Service) : Prop where
  title : Template.render (settings.get .titleTemplate) name = .ok s.title
  keeps : s.registry.Keeps (Interaction.HaveSchema is name)
  operations : ∀ p ∈ s.paths, ∀ e ∈ p.2, e.2.StemsFrom settings is name s.registry

section

variable {settings : Settings} {is : List Interaction} {name : String}

theorem Operation.StemsFrom.mono {r r' : Registry} {o : Operation}
    (h : o.StemsFrom settings is name r) (hr : r.Extends r') :
    o.StemsFrom settings is name r' := by
  obtain ⟨i, hi, htarget, security, reply, request, ho, hreply, hrequest⟩ := h
  exact ⟨i, hi, htarget, security, reply, request, ho, hreply.mono hr, hrequest.mono hr⟩

/-- A new service has no operations and no components. -/
theorem Service.StemsFrom.new {title : String}
    (h : Template.render (settings.get .titleTemplate) name = .ok title)
    (usage : Table String Nat) :
    Service.StemsFrom settings is name { title, registry := { usage } } :=
  ⟨h, ⟨Registry.sound_ofUsage usage, by simp⟩, by simp⟩

/-- What stands under a path after one more interaction: an operation that was there, or that of the
interaction. -/
theorem Service.mem_paths_add {s : Service} {i : Interaction} {p : String × Table Method Operation}
    (hp : p ∈ (s.add settings i).1.paths) {e : Method × Operation} (he : e ∈ p.2) :
    (∃ q ∈ s.paths, e ∈ q.2) ∨
      e = (i.method, operation settings i
        (i.security.foldl (Security.add settings) { schemes := s.schemes }).requirements
        (placeReply s.registry i).schema
        (placeRequest (placeReply s.registry i).registry i).schema) := by
  rcases Table.mem_of_mem_put hp with hp | rfl
  · exact .inl ⟨p, hp, he⟩
  · -- the path of the new operation: its other operations were there before
    rcases Table.mem_of_mem_put he with he | rfl
    · cases hfind : Table.find (RequestPath.template i.path) s.paths with
      | none => simp [hfind] at he
      | some operations =>
        rw [hfind, Option.getD_some] at he
        exact .inl ⟨_, Table.mem_of_find_eq_some hfind, he⟩
    · exact .inr rfl

/-- One more interaction. -/
theorem Service.StemsFrom.add {s : Service} (h : s.StemsFrom settings is name) {i : Interaction}
    (hi : i ∈ is) (htarget : i.target = name) : (s.add settings i).1.StemsFrom settings is name := by
  have hbody : Interaction.HaveSchema is name (Schema.infer i.body) := ⟨i, hi, htarget, rfl⟩
  have hreply := fits_placeReply h.keeps hbody
  have hrequest := fits_placeRequest hreply.keeps hbody
  have hgrown := hreply.grown.trans hrequest.grown
  refine ⟨h.title, hrequest.keeps, fun p hp e he => ?_⟩
  rcases mem_paths_add hp he with ⟨q, hq, he⟩ | rfl
  · exact (h.operations q hq e he).mono hgrown
  · exact ⟨i, hi, htarget, _, _, _, rfl, hreply.placed.mono hrequest.grown, hrequest.placed⟩

end

/-! ## All interactions -/

namespace Generation

section

variable {settings : Settings} {usage : Usage} {g g' : Generation} {i : Interaction}

/-- What one interaction does: nothing if it has no path or no target, and otherwise it is added to
its service, which may be new. -/
theorem step_cases (h : g.step settings usage i = .ok g') :
    (i.path = "" ∨ i.target = "") ∧ g' = g ∨
    i.path ≠ "" ∧ i.target ≠ "" ∧ ∃ s, g.service settings usage i.target = .ok s ∧
      g'.services = Table.put i.target (s.add settings i).1 g.services := by
  unfold step at h
  split at h
  · next hskip =>
    obtain rfl := Except.ok.inj h
    exact .inl ⟨by simpa using hskip, rfl⟩
  · next hskip =>
    rw [Bool.or_eq_true, decide_eq_true_eq, decide_eq_true_eq, not_or] at hskip
    split at h
    · cases h
    · next s hs =>
      obtain rfl := Except.ok.inj h
      exact .inr ⟨hskip.1, hskip.2, s, hs, rfl⟩

theorem step_of_skip (h : i.path = "" ∨ i.target = "") : g.step settings usage i = .ok g :=
  if_pos (by simpa using h)

theorem exists_step (hpath : i.path ≠ "") (htarget : i.target ≠ "") {s : Service}
    (hs : g.service settings usage i.target = .ok s) :
    ∃ g', g.step settings usage i = .ok g' ∧
      g'.services = Table.put i.target (s.add settings i).1 g.services := by
  rw [step, if_neg (by simp [hpath, htarget]), hs]
  exact ⟨_, rfl, rfl⟩

theorem steps_cons {is : List Interaction} (h : g.steps settings usage (i :: is) = .ok g') :
    ∃ g₁, g.step settings usage i = .ok g₁ ∧ g₁.steps settings usage is = .ok g' := by
  rw [steps] at h
  split at h
  · next g₁ hstep => exact ⟨g₁, hstep, h⟩
  · cases h

/-- What holds at the start, and is kept by each interaction, holds at the end of all of them. -/
theorem invariant_of_steps {P : List Interaction → Generation → Prop} {is : List Interaction}
    (hstart : P [] g)
    (hkept : ∀ done i g₁ g₂, i ∈ is → P done g₁ → g₁.step settings usage i = .ok g₂ →
      P (done ++ [i]) g₂)
    (h : g.steps settings usage is = .ok g') : P is g' := by
  -- Induction on the interactions ahead, from any point of the run.
  suffices hrun : ∀ (ahead done : List Interaction) (g₁ : Generation), is = done ++ ahead →
      P done g₁ → g₁.steps settings usage ahead = .ok g' → P is g' from
    hrun is [] g rfl hstart h
  intro ahead
  induction ahead with
  | nil =>
    intro done g₁ his hP hsteps
    obtain rfl := Except.ok.inj hsteps
    rwa [his, List.append_nil]
  | cons i ahead ih =>
    intro done g₁ his hP hsteps
    obtain ⟨g₂, hstep, hrest⟩ := steps_cons hsteps
    have hi : i ∈ is := by simp [his]
    exact ih (done ++ [i]) g₂ (by rw [his, List.append_cons]) (hkept done i g₁ g₂ hi hP hstep) hrest

end

variable {settings : Settings} {usage : Usage} {all : List Interaction} {g g' : Generation}

/-- What holds of new services, and is kept by the interactions with a service, holds of all services
at the end. -/
theorem services_of_steps {P : String → Service → Prop} {is : List Interaction}
    (hnew : ∀ name title, Template.render (settings.get .titleTemplate) name = .ok title →
      P name { title, registry := { usage := usage.of name } })
    (hadd : ∀ i ∈ is, ∀ s, P i.target s → P i.target (s.add settings i).1)
    (hg : ∀ e ∈ g.services, P e.1 e.2) (hsteps : g.steps settings usage is = .ok g') :
    ∀ e ∈ g'.services, P e.1 e.2 := by
  refine invariant_of_steps (P := fun _ g => ∀ e ∈ g.services, P e.1 e.2) hg ?_ hsteps
  intro _ i g₁ g₂ hi hg₁ hstep e he
  rcases step_cases hstep with ⟨-, rfl⟩ | ⟨-, -, s, hs, hservices⟩
  · exact hg₁ e he
  · rw [hservices] at he
    rcases Table.mem_of_mem_put he with he | rfl
    · exact hg₁ e he
    · -- the service of the interaction was there before, or is a new one
      refine hadd i hi s ?_
      unfold Generation.service at hs
      split at hs
      · next hfind =>
        obtain rfl := Except.ok.inj hs
        exact hg₁ _ (Table.mem_of_find_eq_some hfind)
      · cases htitle : Template.render (settings.get .titleTemplate) i.target with
        | error e => simp [htitle, Except.map] at hs
        | ok title =>
          obtain rfl : ({ title, registry := { usage := usage.of i.target } } : Service) = s := by
            simpa [htitle, Except.map] using hs
          exact hnew i.target title htitle

/-- Every service is made from the interactions with it. -/
def StemsFrom (settings : Settings) (is : List Interaction) (g : Generation) : Prop :=
  ∀ e ∈ g.services, e.2.StemsFrom settings is e.1

/-- All interactions, one after another. -/
theorem StemsFrom.steps {is : List Interaction} (hg : g.StemsFrom settings all) (his : is ⊆ all)
    (hsteps : g.steps settings usage is = .ok g') : g'.StemsFrom settings all := by
  refine services_of_steps (P := fun name s => s.StemsFrom settings all name) ?_ ?_ hg hsteps
  · intro name title htitle
    exact .new htitle _
  · intro i hi s hs
    exact hs.add (his hi) rfl

/-- A template that never fails gives every service a title. -/
theorem exists_steps
    (h : ∀ name, ∃ title, Template.render (settings.get .titleTemplate) name = .ok title)
    (is : List Interaction) : ∀ g : Generation, ∃ g', g.steps settings usage is = .ok g' := by
  induction is with
  | nil => exact fun g => ⟨g, rfl⟩
  | cons i is ih =>
    intro g
    have hservice (name : String) : ∃ s, g.service settings usage name = .ok s := by
      unfold Generation.service
      split
      · exact ⟨_, rfl⟩
      · obtain ⟨title, htitle⟩ := h name
        exact ⟨_, by rw [htitle]; rfl⟩
    obtain ⟨g₁, hstep⟩ : ∃ g₁, g.step settings usage i = .ok g₁ := by
      unfold Generation.step
      split
      · exact ⟨g, rfl⟩
      · obtain ⟨s, hs⟩ := hservice i.target
        rw [hs]
        exact ⟨_, rfl⟩
    rw [Generation.steps, hstep]
    exact ih g₁

end Generation

namespace Diagram

/-- No services yet, and the records of the bodies that have no schema. -/
def blankGeneration (d : Diagram) : Generation :=
  ⟨[], (d.interactions.filter (·.target != "")).flatMap Usage.noSchema⟩

variable {settings : Settings} {d : Diagram}

/-- The documents are those of the services at the end. -/
theorem documents_eq (settings : Settings) (d : Diagram) :
    d.documents settings =
      match d.blankGeneration.steps settings (Usage.ofInteractions d.interactions)
        d.interactions with
      | .ok g => .ok (g.services.map fun (name, s) =>
          (name, s.document settings (Generation.tags d.interactions)))
      | .error e => .error e.error := by
  rw [documents, generate, Generation.run, blankGeneration]
  cases Generation.steps settings (Usage.ofInteractions d.interactions)
    ⟨[], (d.interactions.filter (·.target != "")).flatMap Usage.noSchema⟩ d.interactions <;> rfl

/-- Documents are there if the run succeeds. -/
theorem exists_generation {documents : Table String Document}
    (h : d.documents settings = .ok documents) :
    ∃ g, d.blankGeneration.steps settings (Usage.ofInteractions d.interactions) d.interactions =
        .ok g ∧
      documents = g.services.map fun (name, s) =>
        (name, s.document settings (Generation.tags d.interactions)) := by
  rw [documents_eq] at h
  split at h
  · next g hsteps => exact ⟨g, hsteps, (Except.ok.inj h).symm⟩
  · cases h

theorem stemsFrom_of_steps {usage : Usage} {g : Generation}
    (hsteps : d.blankGeneration.steps settings usage d.interactions = .ok g) :
    g.StemsFrom settings d.interactions := by
  have hblank : d.blankGeneration.StemsFrom settings d.interactions :=
    fun e he => absurd he List.not_mem_nil
  exact hblank.steps (List.Subset.refl _) hsteps

/-- A document is that of a service which is made from the interactions with it. -/
theorem exists_service {documents : Table String Document}
    (h : d.documents settings = .ok documents) {e : String × Document} (he : e ∈ documents) :
    ∃ s : Service, s.StemsFrom settings d.interactions e.1 ∧
      e.2 = s.document settings (Generation.tags d.interactions) := by
  obtain ⟨g, hsteps, rfl⟩ := exists_generation h
  obtain ⟨⟨name, s⟩, hs, rfl⟩ := List.mem_map.1 he
  exact ⟨s, stemsFrom_of_steps hsteps _ hs, rfl⟩

/-- A template that never fails gives documents for every diagram. -/
theorem exists_documents
    (h : ∀ name, ∃ title, Template.render (settings.get .titleTemplate) name = .ok title) :
    ∃ documents, d.documents settings = .ok documents := by
  obtain ⟨g, hg⟩ := Generation.exists_steps h d.interactions d.blankGeneration
  rw [documents_eq, hg]
  exact ⟨_, rfl⟩

end Diagram

/-! ## The default template -/

namespace Template

theorem valueOf_service (service : String) :
    valueOf service "service".toList = .ok (.text service) := by
  have hnumber : number? "service".toList = .ok none := by decide
  have hfirst : ("service".toList.takeWhile fun c => c != '.' && c != '[') = "service".toList := by
    decide
  rw [valueOf]
  simp only [hfirst, hnumber]
  rfl

/-- The default template never fails. -/
theorem render_default (service : String) :
    render (Setting.default .titleTemplate) service = .ok (service ++ " API") := by
  have hchars : (Setting.default .titleTemplate).toList = '\x7b' :: "service\x7d API".toList := rfl
  have hlength : (Setting.default .titleTemplate).length = 13 := rfl
  have hfield : field? "service\x7d API".toList =
      .ok (⟨"service".toList, none, []⟩, " API".toList) := rfl
  have hrest : renderFrom service 13 1 " API".toList = .ok " API".toList := rfl
  rw [render, hchars, hlength, renderFrom, hfield]
  · simp only [valueOf_service, Except.bind, convert, List.contains_nil, layOut, Value.toText, hrest]
    simp [Except.map]
  · simp
  · simp

end Template

/-- With default settings there are documents for every diagram. -/
theorem Diagram.exists_documents_defaults (d : Diagram) :
    ∃ documents, d.documents Settings.defaults = .ok documents := by
  have htitle (name : String) : ∃ title,
      Template.render (Settings.defaults.get .titleTemplate) name = .ok title :=
    ⟨_, Template.render_default name⟩
  exact exists_documents htitle

end SequenceApi
