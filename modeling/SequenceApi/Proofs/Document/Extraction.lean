import SequenceApi.Proofs.Diagram.Status
import SequenceApi.Proofs.Document.Isolation

/-!
# Repeated shapes become components

Shapes are counted in one pass over a diagram and shared in another, and the two passes skip
different interactions: a body is counted wherever it stands, and it reaches the document only if it
is sent with its request or there is an answer to carry it. An operation that is replaced later has
left its component behind. Still the components are those of the shapes that are repeated and reach
the document, each as its first interaction has it; and what stands for a body is a reference just
if the shape of the body is repeated.

A service is followed through the run. What it has collected is described by the interactions with
it so far: the component of every fingerprint, and the interaction of every operation.

## Main definitions

* `Interaction.isEmitted`, `Usage.occurrences`, `Usage.firstEmitted?`: how often a shape occurs, and
  where it reaches the document first
* `Interaction.lastAt?`: the interaction whose operation stays
* `Interaction.Represents`, `Json.IsBodyOf`: what stands for the body of an interaction
* `Registry.Holds`, `Service.Collects`: what a service has collected from interactions with it
* `Document.Extracts`: the components and references of a document

## Main results

* `Usage.find_of_ofInteractions`: shapes are counted right
* `Service.Collects.add`: one more interaction with the service
* `Generation.collects_steps`: all interactions
* `Diagram.documents_extract`: a document shares exactly the repeated shapes
-/

namespace SequenceApi

/-! ## Interactions with a service -/

namespace Interaction

/-- The body reaches the document: it is sent with the request, or an answer may carry it. -/
def isEmitted (i : Interaction) : Bool :=
  i.method.sendsBody || i.answer.isSome

/-- The operation of the interaction has a place for the body. -/
def hasBodySchema (i : Interaction) : Bool :=
  if i.method.sendsBody then Service.hasRequestBody i else i.answer.isSome

/-- The interaction has a path template and a method. -/
def isAt (template : String) (m : Method) (i : Interaction) : Bool :=
  RequestPath.template i.path = template && i.method = m

/-- The last interaction with a path template and a method. -/
def lastAt? (template : String) (m : Method) (is : List Interaction) : Option Interaction :=
  is.reverse.find? (isAt template m)

theorem lastAt?_snoc (template : String) (m : Method) (is : List Interaction) (i : Interaction) :
    lastAt? template m (is ++ [i]) = if isAt template m i then some i else lastAt? template m is := by
  rw [lastAt?, lastAt?, List.reverse_append, List.reverse_singleton, List.singleton_append,
    List.find?_cons]
  cases isAt template m i <;> rfl

end Interaction

namespace Usage

/-- How many of the interactions have a shape. -/
def occurrences (key : String) (is : List Interaction) : Nat :=
  is.countP fun i => shape? i = some key

/-- The first of the interactions that has a shape and is emitted. -/
def firstEmitted? (key : String) (is : List Interaction) : Option Interaction :=
  is.find? fun i => i.isEmitted && shape? i = some key

theorem firstEmitted?_snoc {i : Interaction} (hi : i.isEmitted = true) (key : String)
    (is : List Interaction) :
    firstEmitted? key (is ++ [i]) =
      (firstEmitted? key is).or (if shape? i = some key then some i else none) := by
  rw [firstEmitted?, firstEmitted?, List.find?_append, List.find?_singleton, hi, Bool.true_and]
  simp only [decide_eq_true_eq]

theorem firstEmitted?_snoc_of_not {i : Interaction} (hi : i.isEmitted = false) (key : String)
    (is : List Interaction) : firstEmitted? key (is ++ [i]) = firstEmitted? key is := by
  rw [firstEmitted?, firstEmitted?, List.find?_append, List.find?_singleton, hi, Bool.false_and,
    if_neg Bool.false_ne_true, Option.or_none]

/-! ## Counted shapes -/

variable {service : String}

theorem find_of_add (hservice : service ≠ "") (u : Usage) {i : Interaction}
    (hi : i.target = service) (key : String) :
    (Table.find key ((u.add i).of service)).getD 0 =
      (Table.find key (u.of service)).getD 0 + if shape? i = some key then 1 else 0 := by
  subst hi
  rw [add, if_neg hservice]
  -- a body without a shape is not counted, and one with a shape at its own key alone
  split
  · next key' hshape =>
    rw [of_put_self, Registry.count, hshape]
    by_cases hkey : key' = key
    · subst hkey
      simp [Table.find_put_self]
    · rw [Table.find_put_of_ne (Ne.symm hkey), if_neg (by simpa using hkey), Nat.add_zero]
  · next hshape => simp [hshape]

theorem find_of_foldl_add (hservice : service ≠ "") (key : String) (is : List Interaction) :
    ∀ u : Usage, (∀ i ∈ is, i.target = service) →
      (Table.find key ((is.foldl add u).of service)).getD 0 =
        (Table.find key (u.of service)).getD 0 + occurrences key is := by
  -- Induction on the interactions, from any counts.
  induction is with
  | nil => exact fun u _ => rfl
  | cons i is ih =>
    intro u his
    obtain ⟨hi, his⟩ := List.forall_mem_cons.1 his
    rw [List.foldl_cons, ih (u.add i) his, find_of_add hservice u hi, occurrences, occurrences,
      List.countP_cons]
    simp only [decide_eq_true_eq]
    omega

/-- A shape is counted as often as it occurs among the interactions with a service. -/
theorem find_of_ofInteractions (hservice : service ≠ "") (key : String) (is : List Interaction) :
    (Table.find key ((ofInteractions is).of service)).getD 0 =
      occurrences key (is.filter (·.target = service)) := by
  have htargets : ∀ i ∈ is.filter (·.target = service), i.target = service := by
    intro i hi
    simpa using (List.mem_filter.1 hi).2
  rw [of_ofInteractions_filter, ofInteractions, find_of_foldl_add hservice key _ [] htargets]
  exact Nat.zero_add _

end Usage

/-! ## Placing a body -/

/-- What stands for a body that has no schema. -/
def Service.standIn (m : Method) : Json :=
  if m.sendsBody then anyObject else emptyObject

/-- What stands for the body of an interaction, where a shape `key` is counted `n key` times: a
reference to the component of the body's shape if that is repeated, and otherwise the schema of the
body, or the value that stands for none. -/
inductive Interaction.Represents (n : String → Nat) (components : Table String Json)
    (i : Interaction) : Json → Prop where
  | shared {name : String} {schema : Json} (hfind : Table.find name components = some schema)
      (hshape : Usage.shape? i = some (Schema.fingerprint schema))
      (hrepeated : 1 < n (Schema.fingerprint schema)) : Represents n components i (componentRef name)
  | inline (h : ∀ key, Usage.shape? i = some key → n key ≤ 1) :
      Represents n components i ((Usage.schema? i).getD (Service.standIn i.method))

/-- What a registry holds after some interactions with its service: each repeated shape has the
component of the first interaction that is emitted with it. -/
structure Registry.Holds (n : String → Nat) (done : List Interaction) (r : Registry) : Prop where
  uses : ∀ key, r.uses key = n key
  sound : r.Sound
  distinct : r.components.Distinct
  component : ∀ key, r.componentOf key =
    if 1 < n key then (Usage.firstEmitted? key done).map fun i => Schema.infer i.body else none

section

variable {n : String → Nat} {done : List Interaction} {r r' : Registry} {i : Interaction} {v : Json}

theorem Interaction.Represents.mono (h : i.Represents n r.components v) (hr : r.Extends r') :
    i.Represents n r'.components v := by
  cases h with
  | shared hfind hshape hrepeated => exact .shared (hr _ _ hfind) hshape hrepeated
  | inline h => exact .inline h

theorem Registry.holds_ofUsage {usage : Table String Nat}
    (h : ∀ key, (Table.find key usage).getD 0 = n key) : Registry.Holds n [] { usage } where
  uses := h
  sound := Registry.sound_ofUsage usage
  distinct := List.nodup_nil
  component := by
    intro key
    rw [Registry.componentOf, Table.find_nil, Option.bind_none]
    split <;> rfl

/-- An interaction that is not emitted takes no part. -/
theorem Registry.Holds.skip (h : r.Holds n done) (hi : i.isEmitted = false) :
    r.Holds n (done ++ [i]) := by
  refine ⟨h.uses, h.sound, h.distinct, fun key => ?_⟩
  rw [h.component, Usage.firstEmitted?_snoc_of_not hi]

namespace Service

/-- A body with a shape is shared; every other one leaves the registry as it is. -/
theorem place_cases (r : Registry) (otherwise : Json) (i : Interaction) :
    Usage.shape? i = none ∧ (place r otherwise i).registry = r ∧
      (place r otherwise i).schema = (Usage.schema? i).getD otherwise ∨
    ∃ schema, Usage.schema? i = some schema ∧
      Usage.shape? i = some (Schema.fingerprint schema) ∧
      (place r otherwise i).registry = (r.share (componentName schema) schema).registry ∧
      (place r otherwise i).schema = (r.share (componentName schema) schema).schema := by
  rw [Usage.shape?, place]
  cases Usage.schema? i with
  | none => exact .inl ⟨rfl, rfl, rfl⟩
  | some schema =>
    rw [Option.bind_some]
    simp only [Registry.extract]
    split
    · exact .inl ⟨rfl, rfl, rfl⟩
    · exact .inr ⟨schema, rfl, rfl, rfl, rfl⟩

/-- One more interaction that is emitted. -/
theorem holds_place (h : r.Holds n done) (hi : i.isEmitted = true) (otherwise : Json) :
    (place r otherwise i).registry.Holds n (done ++ [i]) := by
  rcases place_cases r otherwise i with ⟨hshape, hr, -⟩ | ⟨schema, hschema, hshape, hr, -⟩
  · -- without a shape the interaction is the first of none
    rw [hr]
    refine ⟨h.uses, h.sound, h.distinct, fun key => ?_⟩
    rw [h.component, Usage.firstEmitted?_snoc hi, hshape, if_neg (Option.some_ne_none key).symm,
      Option.or_none]
  · rw [hr]
    refine ⟨fun key => (r.uses_share _ schema key).trans (h.uses key), h.sound.share _ schema,
      Registry.distinct_share h.distinct _ schema, fun key => ?_⟩
    rw [h.sound.componentOf_share, h.component, h.uses, Usage.firstEmitted?_snoc hi, hshape]
    -- the schema becomes the component just if no emitted interaction had its shape before
    by_cases hrepeated : 1 < n key
    · rw [if_pos hrepeated, if_pos hrepeated, Option.map_or]
      by_cases hkey : Schema.fingerprint schema = key
      · rw [if_pos ⟨hkey, hrepeated⟩, if_pos (congrArg some hkey), Option.map_some,
          Usage.eq_infer_of_schema? hschema]
      · rw [if_neg fun hboth => hkey hboth.1, if_neg fun hsome => hkey (Option.some_inj.1 hsome),
          Option.map_none]
    · rw [if_neg hrepeated, if_neg hrepeated, if_neg fun hboth => hrepeated hboth.2, Option.or_none]

/-- What is placed stands for the body. -/
theorem represents_place (h : r.Holds n done) :
    i.Represents n (place r (standIn i.method) i).registry.components
      (place r (standIn i.method) i).schema := by
  rcases place_cases r (standIn i.method) i with ⟨hshape, hr, hv⟩ | ⟨schema, hschema, hshape, hr, hv⟩
  · rw [hv]
    refine .inline fun key hkey => ?_
    rw [hshape] at hkey
    cases hkey
  · rw [hr, hv]
    rcases r.share_cases (componentName schema) schema with
      ⟨hrare, hx⟩ | ⟨huses, name, hname, hx⟩ | ⟨huses, -, hx⟩
    · -- the shape is not repeated, and the schema stays
      rw [hx]
      have hinline : ∀ key, Usage.shape? i = some key → n key ≤ 1 := by
        intro key hkey
        rw [hshape] at hkey
        obtain rfl := Option.some_inj.1 hkey
        rwa [← h.uses]
      have hplaced : i.Represents n r.components ((Usage.schema? i).getD (standIn i.method)) :=
        .inline hinline
      rwa [hschema, Option.getD_some] at hplaced
    · -- the component is there already, with the same fingerprint
      rw [hx]
      obtain ⟨schema', hfind, hkey⟩ := h.sound.component hname
      rw [← hkey] at hshape huses
      exact .shared hfind hshape (by rwa [← h.uses])
    · -- the component is the schema itself
      rw [hx]
      exact .shared (Table.find_put_self ..) hshape (by rwa [← h.uses])

end Service

end

/-! ## Operations -/

/-- The schema that an operation has for the body: of what is sent, or of the answer. -/
def Operation.bodySchema? (m : Method) (o : Operation) : Option Json :=
  if m.sendsBody then o.requestBody.map Content.schema else o.reply.map fun r => r.content.schema

/-- The operation with a path template and a method. -/
def Paths.operationAt (paths : Paths) (template : String) (m : Method) : Option Operation :=
  (Table.find template paths).bind (Table.find m)

namespace Service

/-- What an interaction puts in the place of its body, and the registry after it. -/
def placeBody (r : Registry) (i : Interaction) : Placed :=
  if i.isEmitted then place r (standIn i.method) i else ⟨standIn i.method, r, []⟩

section

variable {i : Interaction}

/-- A body that is sent is placed with the request, and not with the answer. -/
theorem placeRequest_of_sendsBody (h : i.method.sendsBody = true) (r : Registry) :
    (placeReply r i).registry = r ∧ (placeRequest r i).registry = (placeBody r i).registry ∧
      (hasRequestBody i = true → (placeRequest r i).schema = (placeBody r i).schema) := by
  have hbody : placeBody r i = place r anyObject i := by
    rw [placeBody, Interaction.isEmitted, standIn, h, Bool.true_or, if_pos rfl, if_pos rfl]
  -- the answer leaves the registry alone, and the request has it all
  rw [hbody, placeReply, h, Bool.or_true, if_pos rfl, placeRequest]
  cases hsent : hasRequestBody i with
  | true => exact ⟨rfl, rfl, fun _ => rfl⟩
  | false =>
    -- without a body there is no schema to place
    have hnone : Usage.schema? i = none := by
      rw [hasRequestBody, h, Bool.true_and] at hsent
      rw [Usage.schema?]
      split at hsent
      · rfl
      · cases hsent
    refine ⟨rfl, ?_, fun hfalse => absurd hfalse Bool.false_ne_true⟩
    rw [if_neg Bool.false_ne_true, place, hnone]

/-- Every other body is placed with the answer, if there is one, and not with the request. -/
theorem placeReply_of_not_sendsBody (h : i.method.sendsBody = false) (r : Registry) :
    (placeRequest r i).registry = r ∧ (placeReply r i).registry = (placeBody r i).registry ∧
      (i.answer.isSome = true → (placeReply r i).schema = (placeBody r i).schema) := by
  rw [placeRequest, hasRequestBody, placeReply, placeBody, Interaction.isEmitted, standIn, h,
    Bool.or_false, Bool.false_or, Bool.false_and]
  cases i.answer with
  | none => exact ⟨rfl, rfl, fun hfalse => absurd hfalse Bool.false_ne_true⟩
  | some a => exact ⟨rfl, rfl, fun _ => rfl⟩

variable (settings : Settings) (s : Service)

/-- Between them, the answer and the request place the body once. -/
theorem registry_add (i : Interaction) :
    (s.add settings i).1.registry = (placeBody s.registry i).registry := by
  change (placeRequest (placeReply s.registry i).registry i).registry = _
  cases h : i.method.sendsBody with
  | true =>
    obtain ⟨hreply, hrequest, -⟩ := placeRequest_of_sendsBody h s.registry
    rw [hreply, hrequest]
  | false =>
    obtain ⟨-, hreply, -⟩ := placeReply_of_not_sendsBody h s.registry
    rw [(placeReply_of_not_sendsBody h _).1, hreply]

/-- The operation that an interaction adds to a service. -/
def newOperation (i : Interaction) : Operation :=
  operation settings i
    (i.security.foldl (Security.add settings) { schemes := s.schemes }).requirements
    (placeReply s.registry i).schema (placeRequest (placeReply s.registry i).registry i).schema

/-- A new operation replaces the one with its path template and method, and leaves the others. -/
theorem operationAt_add (i : Interaction) (template : String) (m : Method) :
    (s.add settings i).1.paths.operationAt template m =
      if i.isAt template m then some (s.newOperation settings i)
      else s.paths.operationAt template m := by
  rw [Paths.operationAt, Paths.operationAt, Service.add, Interaction.isAt]
  by_cases hpath : RequestPath.template i.path = template
  · subst hpath
    rw [Table.find_put_self, Option.bind_some]
    by_cases hm : i.method = m
    · subst hm
      simp [Table.find_put_self, newOperation]
    · -- the other methods of a new path are none, and those of an old path stay
      rw [Table.find_put_of_ne (Ne.symm hm)]
      cases Table.find (RequestPath.template i.path) s.paths <;> simp [hm]
  · rw [Table.find_put_of_ne (Ne.symm hpath)]
    simp [hpath]

/-- What holds of the operation in each place, and of the new operation, holds of the operations after
one more interaction. -/
theorem exists_operationAt_add {P : Method → Interaction → Operation → Prop} {done : List Interaction}
    (hold : ∀ {template m j}, Interaction.lastAt? template m done = some j →
      ∃ o, s.paths.operationAt template m = some o ∧ P m j o)
    {i : Interaction} (hnew : P i.method i (s.newOperation settings i)) {template : String} {m : Method}
    {j : Interaction} (hj : Interaction.lastAt? template m (done ++ [i]) = some j) :
    ∃ o, (s.add settings i).1.paths.operationAt template m = some o ∧ P m j o := by
  rw [Interaction.lastAt?_snoc] at hj
  rw [operationAt_add]
  split at hj
  · next hat =>
    obtain rfl := Option.some_inj.1 hj
    obtain ⟨-, rfl⟩ : RequestPath.template i.path = template ∧ i.method = m := by
      simpa [Interaction.isAt] using hat
    rw [if_pos hat]
    exact ⟨_, rfl, hnew⟩
  · -- an operation elsewhere stays
    next hat =>
    rw [if_neg hat]
    exact hold hj

theorem bodySchema?_newOperation (i : Interaction) :
    (s.newOperation settings i).bodySchema? i.method =
      if i.hasBodySchema then some (placeBody s.registry i).schema else none := by
  rw [Operation.bodySchema?, Interaction.hasBodySchema, newOperation, operation]
  cases h : i.method.sendsBody with
  | true =>
    obtain ⟨hreply, -, hrequest⟩ := placeRequest_of_sendsBody h s.registry
    cases hsent : hasRequestBody i with
    | true => simp [hreply, hrequest hsent]
    | false => simp
  | false =>
    obtain ⟨-, -, hreply⟩ := placeReply_of_not_sendsBody h s.registry
    cases hanswer : i.answer with
    | none => simp [reply?, hanswer]
    | some a => simp [reply?, hanswer, hreply (by simp [hanswer])]

end

end Service

/-! ## One more interaction -/

section

variable {n : String → Nat} {done : List Interaction} {r r' : Registry} {i : Interaction}

theorem Interaction.isEmitted_of_hasBodySchema (h : i.hasBodySchema = true) :
    i.isEmitted = true := by
  rw [hasBodySchema] at h
  rw [isEmitted]
  split at h
  · next hsends => rw [hsends, Bool.true_or]
  · rw [h, Bool.or_true]

namespace Service

theorem extends_placeBody (r : Registry) (i : Interaction) :
    r.Extends (placeBody r i).registry := by
  rw [placeBody]
  split
  · rcases place_cases r (standIn i.method) i with ⟨-, hr, -⟩ | ⟨schema, -, -, hr, -⟩
    · rw [hr]
      exact .refl r
    · rw [hr]
      exact .share r _ schema
  · exact .refl r

theorem holds_placeBody (h : r.Holds n done) (i : Interaction) :
    (placeBody r i).registry.Holds n (done ++ [i]) := by
  rw [placeBody]
  split
  · next hi => exact holds_place h hi _
  · next hi => exact h.skip (by simpa using hi)

theorem represents_placeBody (h : r.Holds n done) (hi : i.hasBodySchema = true) :
    i.Represents n (placeBody r i).registry.components (placeBody r i).schema := by
  rw [placeBody, if_pos (Interaction.isEmitted_of_hasBodySchema hi)]
  exact represents_place h

end Service

/-- The operation has a schema for the body of an interaction if it has a place for it, and what
stands there stands for that body. -/
structure Operation.Carries (n : String → Nat) (components : Table String Json) (m : Method)
    (i : Interaction) (o : Operation) : Prop where
  isSome : (o.bodySchema? m).isSome = i.hasBodySchema
  represents : ∀ v, o.bodySchema? m = some v → i.Represents n components v

/-- What a service has collected from some interactions with it: the components, and the operation of
the last interaction in each place. -/
structure Service.Collects (n : String → Nat) (done : List Interaction) (s : Service) : Prop where
  holds : s.registry.Holds n done
  operation : ∀ {template m i}, Interaction.lastAt? template m done = some i →
    ∃ o, s.paths.operationAt template m = some o ∧ o.Carries n s.registry.components m i
  noOther : ∀ {template m}, Interaction.lastAt? template m done = none →
    s.paths.operationAt template m = none

theorem Operation.Carries.mono {m : Method} {o : Operation} (h : o.Carries n r.components m i)
    (hr : r.Extends r') : o.Carries n r'.components m i :=
  ⟨h.isSome, fun v hv => (h.represents v hv).mono hr⟩

/-- A new operation carries the body of its interaction. -/
theorem Service.carries_newOperation (settings : Settings) {s : Service}
    (h : s.registry.Holds n done) (i : Interaction) :
    (s.newOperation settings i).Carries n (placeBody s.registry i).registry.components i.method
      i := by
  constructor
  · rw [bodySchema?_newOperation]
    split
    · next hi => rw [hi, Option.isSome_some]
    · next hi => simp [hi]
  · intro v hv
    rw [bodySchema?_newOperation] at hv
    split at hv
    · next hi => exact Option.some_inj.1 hv ▸ represents_placeBody h hi
    · cases hv

/-- One more interaction. -/
theorem Service.Collects.add {s : Service} (h : s.Collects n done) (settings : Settings)
    (i : Interaction) : (s.add settings i).1.Collects n (done ++ [i]) := by
  constructor
  · rw [registry_add]
    exact holds_placeBody h.holds i
  · rw [registry_add]
    refine exists_operationAt_add settings s (fun hj => ?_) (carries_newOperation settings h.holds i)
    -- what an operation refers to stays
    obtain ⟨o, ho, hcarries⟩ := h.operation hj
    exact ⟨o, ho, hcarries.mono (extends_placeBody s.registry i)⟩
  · intro template m hnone
    rw [Interaction.lastAt?_snoc] at hnone
    rw [operationAt_add]
    split at hnone
    · cases hnone
    · next hat =>
      rw [if_neg hat]
      exact h.noOther hnone

/-- A new service has collected nothing. -/
theorem Service.Collects.new (title : String) {usage : Table String Nat}
    (h : ∀ key, (Table.find key usage).getD 0 = n key) :
    Service.Collects n [] { title, registry := { usage } } := by
  refine ⟨Registry.holds_ofUsage h, fun {template m i} hi => ?_, fun {template m} _ => rfl⟩
  cases hi

end

/-! ## All interactions -/

namespace Generation

/-- Whatever a generation has of a service has been collected from some interactions with it. -/
def Collects (settings : Settings) (usage : Usage) (n : String → Nat) (service : String)
    (done : List Interaction) (g : Generation) : Prop :=
  ∀ s, g.service settings usage service = .ok s → s.Collects n done

variable {settings : Settings} {usage : Usage} {n : String → Nat} {service : String}
  {g h : Generation}

theorem collects_of_find_eq_none (hcounts : ∀ key, (Table.find key (usage.of service)).getD 0 = n key)
    (hg : Table.find service g.services = none) : g.Collects settings usage n service [] :=
  fun _ => service_of_find_eq_none (P := Service.Collects n []) (fun title => .new title hcounts) hg

/-- All interactions, one after another. -/
theorem collects_steps (hservice : service ≠ "") {is : List Interaction}
    (hpaths : ∀ i ∈ is, i.path ≠ "") (hg : g.Collects settings usage n service [])
    (hsteps : g.steps settings usage is = .ok h) :
    h.Collects settings usage n service (is.filter (·.target = service)) :=
  service_of_steps (P := Service.Collects n) hservice hpaths hg
    (fun _ i _ _ hs => hs.add settings i) hsteps

end Generation

/-! ## Documents -/

/-- The value `v` in the place of the body of an interaction: a reference just if the shape of the
body is repeated among some interactions. A reference names the component of that shape; every other
value is the schema of the body, or stands for none. -/
structure Json.IsBodyOf (is : List Interaction) (schemas : Table String Json) (i : Interaction)
    (v : Json) : Prop where
  reference_iff : (∃ ref, v = .obj [("$ref", .str ref)]) ↔
    ∃ key, Usage.shape? i = some key ∧ 2 ≤ Usage.occurrences key is
  component : ∀ ref, v = .obj [("$ref", .str ref)] → ∃ name schema, ref = componentPath ++ name ∧
    Table.find name schemas = some schema ∧ Usage.shape? i = some (Schema.fingerprint schema)
  inlined : (∀ ref, v ≠ .obj [("$ref", .str ref)]) →
    v = (Usage.schema? i).getD (Service.standIn i.method)

/-- The document of a service extracts the shapes that are repeated among the interactions `is` with
the service. -/
structure Document.Extracts (is : List Interaction) (x : Document) : Prop where
  /-- Each component has a name of its own. -/
  distinct : x.schemas.Distinct
  /-- A shape that two interactions have, and one that is emitted, has one component. -/
  existsUnique : ∀ key, 2 ≤ Usage.occurrences key is →
    (∃ i ∈ is, i.isEmitted = true ∧ Usage.shape? i = some key) →
    ∃! name, ∃ schema, Table.find name x.schemas = some schema ∧ Schema.fingerprint schema = key
  /-- Every component has such a shape, and is the schema of the first interaction that is emitted
  with it. -/
  component : ∀ name schema, Table.find name x.schemas = some schema →
    2 ≤ Usage.occurrences (Schema.fingerprint schema) is ∧
      ∃ i, Usage.firstEmitted? (Schema.fingerprint schema) is = some i ∧
        schema = Schema.infer i.body
  /-- In each place is the operation of the last interaction there, and what that has for the body
  is a reference just if the shape of the body is repeated. -/
  operation : ∀ template m i, Interaction.lastAt? template m is = some i →
    ∃ o, x.paths.operationAt template m = some o ∧
      (o.bodySchema? m).isSome = i.hasBodySchema ∧
      ∀ v, o.bodySchema? m = some v → v.IsBodyOf is x.schemas i
  /-- There are no other operations. -/
  noOther : ∀ template m, Interaction.lastAt? template m is = none →
    x.paths.operationAt template m = none

section

variable {is : List Interaction}

/-- What stands for a body without a component is no reference. -/
theorem Usage.getD_schema?_ne (i : Interaction) (ref : String) :
    (schema? i).getD (Service.standIn i.method) ≠ .obj [("$ref", .str ref)] := by
  cases hschema : schema? i with
  | none =>
    rw [Option.getD_none, Service.standIn]
    split
    · simp [Service.anyObject]
    · simp [Service.emptyObject]
  | some schema =>
    obtain ⟨type, fields, hfields⟩ := Schema.IsInferred.eq_obj ⟨i.body, rfl⟩
    rw [Option.getD_some, eq_infer_of_schema? hschema, hfields]
    simp

theorem Interaction.Represents.isBodyOf {schemas : Table String Json} {i : Interaction} {v : Json}
    (h : i.Represents (Usage.occurrences · is) schemas v) : v.IsBodyOf is schemas i := by
  cases h with
  | @shared name schema hfind hshape hrepeated =>
    refine ⟨⟨fun _ => ⟨_, hshape, hrepeated⟩, fun _ => ⟨_, rfl⟩⟩, fun ref href => ?_, fun hnot => ?_⟩
    · -- the text of the reference is the path of the component
      obtain rfl : componentPath ++ name = ref := by simpa [componentRef] using href
      exact ⟨name, schema, rfl, hfind, hshape⟩
    · exact absurd rfl (hnot _)
  | inline hrare =>
    have hnot := Usage.getD_schema?_ne i
    refine ⟨⟨?_, ?_⟩, fun ref href => absurd href (hnot ref), fun _ => rfl⟩
    · rintro ⟨ref, href⟩
      exact absurd href (hnot ref)
    · rintro ⟨key, hkey, hrepeated⟩
      exact absurd hrepeated (Nat.not_lt.2 (hrare key hkey))

/-- The document of a service that has collected from all interactions with it. -/
theorem Service.Collects.extracts {s : Service} (h : s.Collects (Usage.occurrences · is) is)
    (settings : Settings) (tags : List String) : (s.document settings tags).Extracts is where
  distinct := h.holds.distinct
  existsUnique := by
    intro key hrepeated ⟨j, hj, hemitted, hshape⟩
    -- an interaction that is emitted with the shape makes one of them the first
    obtain ⟨i, hfirst⟩ : ∃ i, Usage.firstEmitted? key is = some i := by
      rw [← Option.isSome_iff_exists, Usage.firstEmitted?, List.find?_isSome]
      exact ⟨j, hj, by simp [hemitted, hshape]⟩
    have hcomponent := h.holds.component key
    rw [if_pos (Nat.lt_of_succ_le hrepeated), hfirst, Option.map_some] at hcomponent
    obtain ⟨name, hfind, hkey⟩ := h.holds.sound.exists_find hcomponent
    refine ⟨name, ⟨_, hfind, hkey⟩, ?_⟩
    rintro name' ⟨schema', hfind', hkey'⟩
    exact h.holds.sound.name_unique hfind hfind' (hkey'.trans hkey.symm)
  component := by
    intro name schema hfind
    have hcomponent := h.holds.sound.componentOf_of_find hfind
    rw [h.holds.component] at hcomponent
    split at hcomponent
    · next hrepeated =>
      obtain ⟨i, hfirst, hschema⟩ := Option.map_eq_some_iff.1 hcomponent
      exact ⟨hrepeated, i, hfirst, hschema.symm⟩
    · cases hcomponent
  operation := by
    intro template m i hlast
    obtain ⟨o, ho, hcarries⟩ := h.operation hlast
    exact ⟨o, ho, hcarries.isSome, fun v hv => (hcarries.represents v hv).isBodyOf⟩
  noOther := fun _ _ hnone => h.noOther hnone

end

namespace Diagram

/-- **Extraction happens exactly for repeated shapes.** In every document of a text that is read,
the components are those of the shapes that two interactions with the service have and that one is
emitted with, each as the first of these has it. The operations are those of the last interactions
in their places, and what an operation has for the body is a reference to a component just if the
body's shape is repeated. -/
theorem documents_extract {text : String} {d : Diagram} (hread : read text = .ok d)
    {settings : Settings} {documents : Table String Document}
    (h : d.documents settings = .ok documents) {service : String} {x : Document}
    (hx : Table.find service documents = some x) :
    x.Extracts (d.only service).interactions := by
  have hservice := service_ne_empty h hx
  obtain ⟨g, hsteps, hfind⟩ := exists_find h
  rw [hfind] at hx
  obtain ⟨s, hs, rfl⟩ := Option.map_eq_some_iff.1 hx
  have hpaths : ∀ i ∈ d.interactions, i.path ≠ "" := fun i hi => path_ne_empty_of_read hread hi
  have hcounts (key : String) := Usage.find_of_ofInteractions hservice key d.interactions
  have hblank : d.blankGeneration.Collects settings (Usage.ofInteractions d.interactions)
      (Usage.occurrences · (d.only service).interactions) service [] :=
    Generation.collects_of_find_eq_none hcounts rfl
  have hcollects := Generation.collects_steps hservice hpaths hblank hsteps s
    (by rw [Generation.service, hs])
  exact hcollects.extracts settings _

/-- A text with one shape of body twice, the first time where no answer carries it. -/
def repeatedText : String :=
  "App->>Shop: GET /carts\nNote over Shop: Body: \x7b\"name\": \"a\"\x7d\n" ++
    "App->>Shop: POST /carts\nNote over Shop: Body: \x7b\"name\": \"b\"\x7d"

theorem documents_extract_of_repeated :
    ∃ d documents x, read repeatedText = .ok d ∧ d.documents Settings.defaults = .ok documents ∧
      Table.find "Shop" documents = some x ∧ x.Extracts (d.only "Shop").interactions := by
  have hshop : (read repeatedText).toOption.any (fun d =>
      (d.documents Settings.defaults).toOption.any fun documents =>
        Table.has "Shop" documents) = true := by decide +kernel
  obtain ⟨d, hread, hshop⟩ := exists_read hshop
  obtain ⟨documents, h⟩ := exists_documents_defaults d
  rw [h] at hshop
  obtain ⟨x, hx⟩ := Option.isSome_iff_exists.1 hshop
  exact ⟨d, documents, x, hread, h, hx, documents_extract hread h hx⟩

end Diagram

end SequenceApi
