import Mathlib.Data.List.Induction
import SequenceApi.Proofs.Document.Extraction
import SequenceApi.Proofs.Document.Security

/-!
# The last interaction writes the operation

Documents grow by one interaction after another: a service appears with the first interaction with
it, a path with the first one on its template, and a method with the first one that uses it there.
What appears stays in its place, and an interaction that comes to a place again replaces what is
there. So an operation is that of the last interaction in its place, made from this one alone. Of
what came before it only the components are left, and of these it may name one for its body.

The requirements of an operation are looked up in the schemes of the whole service. They do not
depend on these: a known mechanism has a scheme anyway, and an unknown one has none under its name.

## Main definitions

* `Descriptor.required`, `Interaction.operation`: what an interaction alone makes
* `Operation.IsMadeBy`: the operation of an interaction, with what may stand for its body
* `Paths.AreWritten`: the operations that some interactions leave behind
* `Service.IsWritten`: the same for a service, with the components it refers to

## Main results

* `Service.Security.requirements_foldl`: what is required does not depend on the schemes so far
* `Service.newOperation_eq`: a new operation is made from its interaction
* `Service.IsWritten.add`: one more interaction
* `Generation.keys_services`: the services in order
* `Diagram.documents_written`: documents hold the operations of the last interactions
-/

namespace SequenceApi

/-! ## Keys in order of first appearance -/

theorem eraseDups_concat {α : Type} [DecidableEq α] (as : List α) (a : α) :
    (as ++ [a]).eraseDups = if a ∈ as then as.eraseDups else as.eraseDups ++ [a] := by
  rw [List.eraseDups_append, List.removeAll]
  by_cases ha : a ∈ as <;> simp [ha, List.eraseDups_cons]

/-- A table that is written under one more key has the keys written so far, each once. -/
theorem Table.keys_put_eraseDups {κ ν : Type} [DecidableEq κ] {t : Table κ ν} {ks : List κ}
    (h : keys t = ks.eraseDups) (k : κ) (v : ν) : keys (put k v t) = (ks ++ [k]).eraseDups := by
  rw [keys_put, eraseDups_concat, h]
  simp only [List.mem_eraseDups]

/-! ## What one interaction makes -/

/-- What declarations require: each mechanism that is known, once. -/
def Descriptor.required (ds : List Descriptor) : List Requirement :=
  ((ds.filter fun d => d.mechanism ≠ .custom).map requirement).eraseDups

theorem Descriptor.required_concat (ds : List Descriptor) (d : Descriptor) :
    required (ds ++ [d]) =
      if d.mechanism = .custom ∨ d.requirement ∈ required ds then required ds
      else required ds ++ [d.requirement] := by
  rw [required, List.filter_append, List.map_append]
  by_cases hcustom : d.mechanism = .custom
  · simp [hcustom, required]
  · rw [List.filter_cons_of_pos (by simpa using hcustom), List.filter_nil, List.map_singleton,
      eraseDups_concat, required]
    simp only [hcustom, false_or, List.mem_eraseDups]

namespace Service

variable {settings : Settings}

/-- Whatever schemes there are, declarations require the same. -/
theorem Security.requirements_foldl {schemes : Table String Json} (h : AreSchemes settings schemes)
    {ds : List Descriptor} (hds : ∀ d ∈ ds, d.IsDeclared) :
    (ds.foldl (Security.add settings) { schemes }).requirements = Descriptor.required ds := by
  have hstart : IsSound settings { schemes } := ⟨h, .nil schemes⟩
  -- Induction on the declarations from the last one, so that the schemes grow.
  induction ds using List.reverseRecOn with
  | nil => rfl
  | append_singleton ds d ih =>
    obtain ⟨hds, hd⟩ := List.forall_mem_append.1 hds
    have hd : d.IsDeclared := hd d List.mem_cons_self
    obtain ⟨hsound, -⟩ := hstart.foldl hds
    rw [List.foldl_concat, Descriptor.required_concat, ← ih hds]
    generalize ds.foldl (Security.add settings) { schemes } = s at hsound
    rcases add_cases settings s d with ⟨hnone, -, hrequirements⟩ | ⟨hschemes, hrequirements⟩
    · -- without a scheme the mechanism is not known, and counts in neither list
      rw [hrequirements, if_pos (.inl (Descriptor.scheme?_eq_none_iff.1 hnone))]
    · have hknown : d.mechanism ≠ .custom := by
        intro hcustom
        rcases hschemes with ⟨hkey, -⟩ | ⟨scheme, hscheme, -⟩
        · exact hsound.schemes.key_not_mem_of_custom hd hcustom hkey
        · rw [Descriptor.scheme?_eq_none_iff.2 hcustom] at hscheme
          cases hscheme
      -- a name that is required is required by a declaration of the same mechanism
      have hrequired : d.key ∈ s.requirements.map Requirement.key ↔
          d.requirement ∈ s.requirements := by
        constructor
        · intro hkey
          obtain ⟨q, hq, hkey⟩ := List.mem_map.1 hkey
          obtain ⟨d', hd', rfl, -⟩ := hsound.requirements.declared q hq
          have hkey : d.key = d'.key := hkey.symm
          have hmechanism := Descriptor.mechanism_eq_of_key_eq hd hd' hkey
          have hsame : d.requirement = d'.requirement := by
            rw [Descriptor.requirement, Descriptor.requirement, hkey, hmechanism]
          rwa [hsame]
        · exact fun hq => List.mem_map.2 ⟨_, hq, rfl⟩
      rw [hrequirements]
      simp only [hrequired, hknown, false_or]

/-- The answer's schema counts only if there is an answer, and the request's if a body is sent. -/
theorem operation_congr (settings : Settings) {i : Interaction} (security : List Requirement)
    {reply reply' request request' : Json} (hreply : i.answer.isSome = true → reply = reply')
    (hrequest : hasRequestBody i = true → request = request') :
    operation settings i security reply request = operation settings i security reply' request' := by
  have hreplies : reply? settings i reply = reply? settings i reply' := by
    rw [reply?, reply?]
    cases hanswer : i.answer with
    | none => rfl
    | some a => rw [hreply (by rw [hanswer, Option.isSome_some])]
  rw [operation, operation, hreplies]
  cases hsent : hasRequestBody i with
  | false => rfl
  | true => rw [hrequest hsent]

end Service

/-- What an interaction requires. -/
def Interaction.requirements (i : Interaction) : List Requirement :=
  Descriptor.required i.security

/-- The operation that an interaction alone makes, where `body` stands for its body: with the
request if the method sends one, and otherwise with the answer. -/
def Interaction.operation (settings : Settings) (i : Interaction) (body : Json) : Operation :=
  Service.operation settings i i.requirements
    (if i.method.sendsBody then Service.emptyObject else body)
    (if i.method.sendsBody then body else Service.anyObject)

/-- Whatever a service has collected, a new operation is made from its interaction. -/
theorem Service.newOperation_eq {settings : Settings} {s : Service}
    (h : AreSchemes settings s.schemes) {i : Interaction} (hi : i.Declares) :
    s.newOperation settings i = i.operation settings (placeBody s.registry i).schema := by
  rw [newOperation, Security.requirements_foldl h hi, Interaction.operation,
    Interaction.requirements]
  -- the body is placed with the request or with the answer, and the other place has no schema of it
  cases hsends : i.method.sendsBody with
  | true =>
    obtain ⟨hreply, -, hrequest⟩ := placeRequest_of_sendsBody hsends s.registry
    have hempty : (placeReply s.registry i).schema = emptyObject := by
      rw [placeReply, hsends, Bool.or_true, if_pos rfl]
    rw [hreply, hempty, if_pos rfl, if_pos rfl]
    exact operation_congr settings _ (fun _ => rfl) hrequest
  | false =>
    obtain ⟨-, -, hreply⟩ := placeReply_of_not_sendsBody hsends s.registry
    rw [if_neg Bool.false_ne_true, if_neg Bool.false_ne_true]
    refine operation_congr settings _ hreply fun hsent => ?_
    rw [hasRequestBody, hsends, Bool.false_and] at hsent
    cases hsent

/-! ## Paths -/

/-- The operation is the one that an interaction alone makes. If it has a place for the body, the
schema of the body is there or a reference to its component, where shapes are counted by `n`. -/
def Operation.IsMadeBy (settings : Settings) (n : String → Nat) (components : Table String Json)
    (i : Interaction) (o : Operation) : Prop :=
  ∃ body, o = i.operation settings body ∧
    (i.hasBodySchema = true → i.Represents n components body)

theorem Operation.IsMadeBy.mono {settings : Settings} {n : String → Nat} {r r' : Registry}
    {i : Interaction} {o : Operation} (h : o.IsMadeBy settings n r.components i)
    (hr : r.Extends r') : o.IsMadeBy settings n r'.components i := by
  obtain ⟨body, ho, hbody⟩ := h
  exact ⟨body, ho, fun hhas => (hbody hhas).mono hr⟩

/-- The paths hold what some interactions `is` leave behind: path templates and methods in the order
in which they appeared, and in each place the operation that the last interaction there makes. -/
structure Paths.AreWritten (settings : Settings) (n : String → Nat) (is : List Interaction)
    (components : Table String Json) (paths : Paths) : Prop where
  templates : Table.keys paths = (is.map fun i => RequestPath.template i.path).eraseDups
  methods : ∀ template, Table.keys ((Table.find template paths).getD []) =
    ((is.filter fun i => RequestPath.template i.path = template).map Interaction.method).eraseDups
  operation : ∀ {template m i}, Interaction.lastAt? template m is = some i →
    ∃ o, paths.operationAt template m = some o ∧ o.IsMadeBy settings n components i

/-- A service that holds what some interactions with it leave behind. -/
structure Service.IsWritten (settings : Settings) (n : String → Nat) (done : List Interaction)
    (s : Service) : Prop where
  holds : s.registry.Holds n done
  schemes : AreSchemes settings s.schemes
  paths : s.paths.AreWritten settings n done s.registry.components

namespace Service.IsWritten

variable {settings : Settings} {n : String → Nat} {done : List Interaction} {s : Service}

theorem new (settings : Settings) (title : String) {usage : Table String Nat}
    (h : ∀ key, (Table.find key usage).getD 0 = n key) :
    IsWritten settings n [] { title, registry := { usage } } where
  holds := Registry.holds_ofUsage h
  schemes := fun _ _ hfind => absurd hfind (by simp)
  paths := ⟨rfl, fun _ => rfl, fun hlast => absurd hlast (by simp [Interaction.lastAt?])⟩

/-- One more interaction writes its own operation, and nothing else. -/
theorem add (h : s.IsWritten settings n done) {i : Interaction} (hi : i.Declares) :
    (s.add settings i).1.IsWritten settings n (done ++ [i]) := by
  have hsecure : Security.IsSound settings { schemes := s.schemes } := ⟨h.schemes, .nil s.schemes⟩
  refine ⟨?_, (hsecure.foldl hi).1.schemes, ⟨?_, fun template => ?_, ?_⟩⟩
  · rw [registry_add]
    exact holds_placeBody h.holds i
  · rw [List.map_append]
    exact Table.keys_put_eraseDups h.paths.templates _ _
  · have hmethods := h.paths.methods template
    rw [Service.add, List.filter_append]
    -- the methods of another template stay as they are
    by_cases htemplate : RequestPath.template i.path = template
    · subst htemplate
      rw [Table.find_put_self, Option.getD_some, List.filter_cons_of_pos (by simp), List.filter_nil,
        List.map_append]
      exact Table.keys_put_eraseDups hmethods _ _
    · rw [Table.find_put_of_ne (Ne.symm htemplate), List.filter_cons_of_neg (by simpa), List.filter_nil,
        List.append_nil]
      exact hmethods
  · -- nothing of an operation that is replaced is looked at
    have hnew : (s.newOperation settings i).IsMadeBy settings n
        (placeBody s.registry i).registry.components i :=
      ⟨_, newOperation_eq h.schemes hi, represents_placeBody h.holds⟩
    rw [registry_add]
    intro template m j
    refine exists_operationAt_add (P := fun _ => Operation.IsMadeBy settings n _) settings s ?_ hnew
    intro template m j hj
    obtain ⟨o, ho, hmade⟩ := h.paths.operation hj
    exact ⟨o, ho, hmade.mono (extends_placeBody s.registry i)⟩

end Service.IsWritten

/-! ## Documents -/

/-- The services are in the order in which they appeared. -/
theorem Generation.keys_services {settings : Settings} {usage : Usage} {g h : Generation}
    {is : List Interaction} (hpaths : ∀ i ∈ is, i.path ≠ "") (hg : g.services = [])
    (hsteps : g.steps settings usage is = .ok h) :
    Table.keys h.services = ((is.map Interaction.target).filter (· ≠ "")).eraseDups := by
  refine invariant_of_steps (P := fun done g => Table.keys g.services =
    ((done.map Interaction.target).filter (· ≠ "")).eraseDups) (by rw [hg]; rfl) ?_ hsteps
  intro done i g₁ g₂ hi hdone hstep
  rw [List.map_append, List.filter_append, List.map_singleton]
  rcases step_cases hstep with ⟨hskip, rfl⟩ | ⟨-, htarget, s, -, hservices⟩
  · have htarget : i.target = "" := hskip.resolve_left (hpaths i hi)
    rw [List.filter_cons_of_neg (by simpa using htarget), List.filter_nil, List.append_nil]
    exact hdone
  · rw [hservices, List.filter_cons_of_pos (by simpa using htarget), List.filter_nil]
    exact Table.keys_put_eraseDups hdone _ _

namespace Diagram

/-- **Operations are those of the last interactions.** For every text that is read, there are
documents for the targets that have a name, in order of first appearance. In the document of a service
are the path templates of its interactions and the methods that are used with each of them, again in
order, and each operation is made from the last interaction in its place alone. -/
theorem documents_written {text : String} {d : Diagram} (hread : read text = .ok d)
    {settings : Settings} {documents : Table String Document}
    (h : d.documents settings = .ok documents) :
    Table.keys documents = ((d.interactions.map Interaction.target).filter (· ≠ "")).eraseDups ∧
      ∀ service x, Table.find service documents = some x →
        x.paths.AreWritten settings (Usage.occurrences · (d.only service).interactions)
          (d.only service).interactions x.schemas := by
  have hpaths : ∀ i ∈ d.interactions, i.path ≠ "" := fun i hi => path_ne_empty_of_read hread hi
  have hdeclares := declares_of_read hread
  constructor
  · obtain ⟨g, hsteps, rfl⟩ := exists_generation h
    rw [Table.keys, List.map_map]
    exact Generation.keys_services hpaths rfl hsteps
  · intro service x hx
    have hservice := service_ne_empty h hx
    have hcounts (key : String) := Usage.find_of_ofInteractions hservice key d.interactions
    obtain ⟨g, hsteps, hfind⟩ := exists_find h
    rw [hfind] at hx
    obtain ⟨s, hs, rfl⟩ := Option.map_eq_some_iff.1 hx
    have hwritten := Generation.service_of_steps
      (P := Service.IsWritten settings (Usage.occurrences · (d.only service).interactions))
      hservice hpaths
      (fun _ => Generation.service_of_find_eq_none (fun title => .new settings title hcounts) rfl)
      (fun _ i hi _ hdone => hdone.add (hdeclares i hi)) hsteps s (by rw [Generation.service, hs])
    exact hwritten.paths

/-- A text with two requests on one path, which differ behind the question mark and in their notes,
and one with another service between them. -/
def rewrittenText : String :=
  "App->>Shop: GET /carts?page=1\nNote over Shop: Summary: Pages\n" ++
    "Note over Shop: Description: Long\nApp->>Bank: POST /accounts\n" ++
    "App->>Shop: GET /carts?size=9\nNote over Shop: Summary: Sizes"

/-- Nothing of the first request is left. -/
theorem documents_written_of_rewritten :
    ∃ d documents x, read rewrittenText = .ok d ∧ d.documents Settings.defaults = .ok documents ∧
      Table.keys documents = ["Shop", "Bank"] ∧ Table.find "Shop" documents = some x ∧
      Table.keys x.paths = ["/carts"] ∧
      ∃ o, x.paths.operationAt "/carts" .get = some o ∧ o.summary = "Sizes" ∧
        o.description = none ∧ o.parameters = [.query "size" "9"] := by
  have htext : (read rewrittenText).toOption.any (fun d =>
      ((d.interactions.map Interaction.target).filter (· ≠ "")).eraseDups = ["Shop", "Bank"] ∧
      ((d.only "Shop").interactions.map fun i => RequestPath.template i.path).eraseDups =
        ["/carts"] ∧
      (Interaction.lastAt? "/carts" .get (d.only "Shop").interactions).map
        (fun i => (i.summary, i.description, RequestPath.parameters i.path)) =
          some (some "Sizes", none, [.query "size" "9"])) = true := by
    decide +kernel
  obtain ⟨d, hread, htext⟩ := exists_read htext
  obtain ⟨hservices, htemplates, hlast⟩ := of_decide_eq_true htext
  obtain ⟨i, hlast, hfields⟩ := Option.map_eq_some_iff.1 hlast
  obtain ⟨hsummary, hfields⟩ := Prod.mk.inj hfields
  obtain ⟨hdescription, hparameters⟩ := Prod.mk.inj hfields
  obtain ⟨documents, h⟩ := exists_documents_defaults d
  obtain ⟨hkeys, hwritten⟩ := documents_written hread h
  rw [hservices] at hkeys
  obtain ⟨x, hx⟩ : ∃ x, Table.find "Shop" documents = some x :=
    Table.exists_find_iff.2 (by rw [hkeys]; exact List.mem_cons_self)
  obtain ⟨o, ho, body, rfl, -⟩ := (hwritten "Shop" x hx).operation hlast
  have htemplate : Table.keys x.paths = ["/carts"] := by
    rw [(hwritten "Shop" x hx).templates, htemplates]
  refine ⟨d, documents, x, hread, h, hkeys, hx, htemplate, _, ho, ?_, ?_, hparameters⟩
  · exact congrArg (fun s => (nonempty? s).getD _) hsummary
  · exact congrArg nonempty? hdescription

end Diagram

end SequenceApi
