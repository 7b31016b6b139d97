import SequenceApi.Proofs.Diagram.Pairing
import SequenceApi.Proofs.Document.Origin
import SequenceApi.Proofs.Note.SchemeKey

/-!
# Security of services

A service keeps the schemes that its operations have asked for, and never replaces one. An operation
requires a scheme only when it is there, and requires it once. So after any number of interactions
every scheme is that of a declaration, under the name of the declaration, and every requirement of
an operation has its scheme. What a mechanism that is not known would be called is no name in the
service, since no known mechanism has that name.

## Main definitions

* `Service.AreSchemes`: schemes of declarations under their names
* `Service.AreRequired`: requirements that have schemes
* `Service.IsSecured`: the two for a whole service

## Main results

* `Service.Security.add_cases`, `Service.Security.IsSound.foldl`: what one declaration does, and what
  all declarations of an operation keep
* `Service.IsSecured.add`, `Generation.isSecured_of_steps`: one more interaction, and all of them
* `Service.AreSchemes.scheme?_eq`: the scheme under a name is that of every declaration of the name
-/

namespace SequenceApi

/-! ## Declarations of a diagram -/

/-- Whatever security the interaction has is declared by a text. -/
def Interaction.Declares (i : Interaction) : Prop :=
  ∀ d ∈ i.security, d.IsDeclared

/-- Security comes from notes alone. -/
theorem Diagram.declares_of_read {text : String} {d : Diagram} (h : Diagram.read text = .ok d) :
    ∀ i ∈ d.interactions, i.Declares := by
  obtain ⟨tokens, -, rfl⟩ := exists_tokens h
  refine Draft.forall_interactions_foldl_step ?_ ?_ ?_ tokens (by simp [Draft.interactions])
  · intro r d hd
    cases hd
  · intro i a hi
    exact hi
  · intro i n hi d hd
    rcases List.mem_append.1 hd with hd | hd
    · exact hi d hd
    · exact Descriptor.isDeclared_of_mem_ofNote hd

namespace Service

variable {settings : Settings} {schemes schemes' : Table String Json} {d : Descriptor}

/-! ## Schemes -/

/-- Each scheme is that of a declaration, under its name. -/
def AreSchemes (settings : Settings) (schemes : Table String Json) : Prop :=
  ∀ key scheme, Table.find key schemes = some scheme →
    ∃ d : Descriptor, d.IsDeclared ∧ d.key = key ∧ d.scheme? settings = some scheme

namespace AreSchemes

theorem put (h : AreSchemes settings schemes) (hd : d.IsDeclared) {scheme : Json}
    (hscheme : d.scheme? settings = some scheme) :
    AreSchemes settings (Table.put d.key scheme schemes) := by
  intro key found hfind
  by_cases hkey : key = d.key
  · rw [hkey, Table.find_put_self] at hfind
    exact ⟨d, hd, hkey.symm, hscheme.trans hfind⟩
  · rw [Table.find_put_of_ne hkey] at hfind
    exact h key found hfind

/-- The scheme under a name is that of every declaration of the name. -/
theorem scheme?_eq (h : AreSchemes settings schemes) (hd : d.IsDeclared) {scheme : Json}
    (hfind : Table.find d.key schemes = some scheme) : d.scheme? settings = some scheme := by
  obtain ⟨d', hd', hkey, hscheme⟩ := h d.key scheme hfind
  rw [← hscheme]
  exact Descriptor.scheme?_eq_of_key_eq hd hd' hkey.symm settings

/-- The name of a mechanism that is not known is free. -/
theorem key_not_mem_of_custom (h : AreSchemes settings schemes) (hd : d.IsDeclared)
    (hcustom : d.mechanism = .custom) : d.key ∉ Table.keys schemes := by
  rw [← Table.find_eq_none_iff, Option.eq_none_iff_forall_ne_some]
  intro scheme hfind
  have hscheme := h.scheme?_eq hd hfind
  rw [Descriptor.scheme?_eq_none_iff.2 hcustom] at hscheme
  cases hscheme

end AreSchemes

/-! ## Requirements -/

/-- Each name is required once, and by a declaration that has a scheme. -/
structure AreRequired (schemes : Table String Json) (requirements : List Requirement) : Prop where
  once : (requirements.map Requirement.key).Nodup
  declared : ∀ q ∈ requirements, ∃ d : Descriptor,
    d.IsDeclared ∧ q = d.requirement ∧ d.key ∈ Table.keys schemes

namespace AreRequired

variable {requirements : List Requirement}

theorem nil (schemes : Table String Json) : AreRequired schemes [] :=
  ⟨List.nodup_nil, by simp⟩

theorem mono (h : AreRequired schemes requirements) (hkeys : Table.keys schemes ⊆ Table.keys schemes') :
    AreRequired schemes' requirements := by
  refine ⟨h.once, fun q hq => ?_⟩
  obtain ⟨d, hd, hrequirement, hkey⟩ := h.declared q hq
  exact ⟨d, hd, hrequirement, hkeys hkey⟩

theorem append (h : AreRequired schemes requirements) (hd : d.IsDeclared)
    (hkey : d.key ∈ Table.keys schemes) (hnew : d.key ∉ requirements.map Requirement.key) :
    AreRequired schemes (requirements ++ [d.requirement]) := by
  constructor
  · rw [List.map_append, List.map_singleton, ← List.concat_eq_append]
    exact h.once.concat hnew
  · intro q hq
    rcases List.mem_append.1 hq with hq | hq
    · exact h.declared q hq
    · exact ⟨d, hd, List.mem_singleton.1 hq, hkey⟩

end AreRequired

/-! ## The security of one operation -/

namespace Security

/-- What holds after some declarations. -/
structure IsSound (settings : Settings) (s : Security) : Prop where
  schemes : AreSchemes settings s.schemes
  requirements : AreRequired s.schemes s.requirements

/-- What one declaration does. Without a scheme it changes nothing that is kept. Otherwise its scheme
is there, from before or as a new one, and it is required, from before or anew. -/
theorem add_cases (settings : Settings) (s : Security) (d : Descriptor) :
    (d.scheme? settings = none ∧ (s.add settings d).schemes = s.schemes ∧
      (s.add settings d).requirements = s.requirements) ∨
    ((d.key ∈ Table.keys s.schemes ∧ (s.add settings d).schemes = s.schemes ∨
        ∃ scheme, d.scheme? settings = some scheme ∧
          (s.add settings d).schemes = Table.put d.key scheme s.schemes) ∧
      (s.add settings d).requirements =
        if d.key ∈ s.requirements.map Requirement.key then s.requirements
        else s.requirements ++ [d.requirement]) := by
  have hrequire : s.requirements.any (·.key == d.key) = true ↔
      d.key ∈ s.requirements.map Requirement.key := by
    simp
  unfold add
  dsimp only
  split
  · next hhas =>
    refine .inr ⟨.inl ⟨Table.has_iff.1 hhas, ?_⟩, ?_⟩
    · split <;> rfl
    · simp only [hrequire]
      split <;> rfl
  · split
    · next hnone => exact .inl ⟨hnone, rfl, rfl⟩
    · next scheme hscheme =>
      refine .inr ⟨.inr ⟨scheme, hscheme, ?_⟩, ?_⟩
      · split <;> rfl
      · simp only [hrequire]
        split <;> rfl

/-- One more declaration. -/
theorem IsSound.add {s : Security} (h : s.IsSound settings) (hd : d.IsDeclared) :
    (s.add settings d).IsSound settings ∧
      Table.keys s.schemes ⊆ Table.keys (s.add settings d).schemes := by
  rcases add_cases settings s d with ⟨-, hschemes, hrequirements⟩ | ⟨hschemes, hrequirements⟩
  · refine ⟨⟨hschemes ▸ h.schemes, ?_⟩, hschemes ▸ List.Subset.refl _⟩
    rw [hschemes, hrequirements]
    exact h.requirements
  · -- its scheme is there, and nothing that was there is lost
    obtain ⟨hsound, hkeys, hkey⟩ : AreSchemes settings (s.add settings d).schemes ∧
        Table.keys s.schemes ⊆ Table.keys (s.add settings d).schemes ∧
          d.key ∈ Table.keys (s.add settings d).schemes := by
      rcases hschemes with ⟨hkey, heq⟩ | ⟨scheme, hscheme, heq⟩
      · rw [heq]
        exact ⟨h.schemes, List.Subset.refl _, hkey⟩
      · rw [heq]
        exact ⟨h.schemes.put hd hscheme, fun k hk => Table.mem_keys_put.2 (.inl hk),
          Table.mem_keys_put.2 (.inr rfl)⟩
    refine ⟨⟨hsound, ?_⟩, hkeys⟩
    have hold := h.requirements.mono hkeys
    rw [hrequirements]
    split
    · exact hold
    · next hnew => exact hold.append hd hkey hnew

/-- All declarations of an operation. -/
theorem IsSound.foldl {ds : List Descriptor} (hds : ∀ d ∈ ds, d.IsDeclared) :
    ∀ {s : Security}, s.IsSound settings →
      (ds.foldl (Security.add settings) s).IsSound settings ∧
        Table.keys s.schemes ⊆ Table.keys (ds.foldl (Security.add settings) s).schemes := by
  induction ds with
  | nil => exact fun h => ⟨h, List.Subset.refl _⟩
  | cons d ds ih =>
    intro s h
    obtain ⟨hd, hds⟩ := List.forall_mem_cons.1 hds
    obtain ⟨hadd, hkeys⟩ := h.add hd
    obtain ⟨hrest, hkeys'⟩ := ih hds hadd
    exact ⟨hrest, List.Subset.trans hkeys hkeys'⟩

end Security

/-! ## Services -/

/-- The schemes of a service are those of declarations, and its operations require what is there. -/
structure IsSecured (settings : Settings) (s : Service) : Prop where
  schemes : AreSchemes settings s.schemes
  operations : ∀ p ∈ s.paths, ∀ e ∈ p.2, AreRequired s.schemes e.2.security

namespace IsSecured

theorem new (settings : Settings) (title : String) (registry : Registry) :
    IsSecured settings { title, registry } :=
  ⟨fun key scheme hfind => absurd hfind (by simp), by simp⟩

/-- One more interaction. -/
theorem add {s : Service} (h : s.IsSecured settings) {i : Interaction} (hi : i.Declares) :
    (s.add settings i).1.IsSecured settings := by
  have hstart : Security.IsSound settings { schemes := s.schemes } :=
    ⟨h.schemes, .nil s.schemes⟩
  obtain ⟨hsound, hkeys⟩ := hstart.foldl hi
  refine ⟨hsound.schemes, fun p hp e he => ?_⟩
  rcases mem_paths_add hp he with ⟨q, hq, he⟩ | rfl
  · exact (h.operations q hq e he).mono hkeys
  · exact hsound.requirements

end IsSecured

end Service

/-- All interactions, one after another. -/
theorem Generation.isSecured_of_steps {settings : Settings} {usage : Usage} {g g' : Generation}
    {is : List Interaction} (his : ∀ i ∈ is, i.Declares) (hg : g.services = [])
    (hsteps : g.steps settings usage is = .ok g') : ∀ e ∈ g'.services, e.2.IsSecured settings := by
  refine services_of_steps (P := fun _ s => s.IsSecured settings) ?_ ?_ (by simp [hg]) hsteps
  · intro name title _
    exact .new settings title _
  · intro i hi s hs
    exact hs.add (his i hi)

end SequenceApi
