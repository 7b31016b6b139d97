import SequenceApi.Proofs.Document.Reporting

/-!
# Issues about one document

Two faults come up only where the documents of several services are checked together: an operation
identifier of two services, and a service without operations. No check of one document finds them,
and the wording of an issue tells them from all others by its first letter: whatever is wrong with
one document is put into words that start with another one.

## Main definitions

* `DocumentFault.isOfServices`: the two faults
* `DocumentFault.StartsApart`: texts that start like none of their messages
* `Objection.AreOwn`: objections to one document

## Main results

* `DocumentFault.startsApart_message_iff`: a message shows whether it is about services
* `Node.areOwn_objections`: what the check of one document finds
-/

namespace SequenceApi

/-! ## Wording -/

namespace DocumentFault

/-- The two faults that come up where documents are checked together. -/
def isOfServices : DocumentFault → Bool
  | noOperations _ | sharedId _ => true
  | _ => false

theorem message_sharedId (id : String) : (sharedId id).message =
    "Duplicate operationId \"" ++ (id ++ "\" found in multiple services") := by
  rw [← String.append_assoc]
  rfl

theorem message_noOperations (service : String) : (noOperations service).message =
    "Service \"" ++ (service ++ "\" has no operations defined") := by
  rw [← String.append_assoc]
  rfl

theorem message_sharedId_inj {id id' : String} :
    (sharedId id).message = (sharedId id').message ↔ id = id' := by
  rw [message_sharedId, message_sharedId, String.append_right_inj, String.append_left_inj]

theorem message_noOperations_inj {service service' : String} :
    (noOperations service).message = (noOperations service').message ↔ service = service' := by
  rw [message_noOperations, message_noOperations, String.append_right_inj, String.append_left_inj]

/-- The text starts with a letter that no issue about services starts with. -/
def StartsApart (s : String) : Prop :=
  ∃ c, s.toList.head? = some c ∧ c ≠ 'D' ∧ c ≠ 'S'

theorem StartsApart.append {s : String} (h : StartsApart s) (t : String) :
    StartsApart (s ++ t) := by
  obtain ⟨c, hc, hne⟩ := h
  refine ⟨c, ?_, hne⟩
  rw [String.toList_append, List.head?_append, hc]
  rfl

theorem startsApart_message {f : DocumentFault} (h : f.isOfServices = false) :
    StartsApart f.message := by
  cases f with
  | noOperations _ | sharedId _ => cases h
  | noContent owner => cases owner <;> exact .append ⟨_, rfl, by decide⟩ _
  | badRef fault => cases fault <;> exact .append (.append ⟨_, rfl, by decide⟩ _) _
  | cycle _ => exact .append ⟨_, rfl, by decide⟩ _
  | oldVersion _ | unknownMethod _ | badStatus _ | noSchema _ | badPlace _ | optionalPath _ =>
    exact .append (.append ⟨_, rfl, by decide⟩ _) _
  | noMapping _ =>
    change StartsApart "OpenAPI document must be a mapping"
    exact ⟨_, rfl, by decide⟩
  | versionType _ =>
    change StartsApart "Invalid \"openapi\" field type"
    exact ⟨_, rfl, by decide⟩
  | _ => exact ⟨_, rfl, by decide⟩

/-- The first letter of a message shows whether it is about services. -/
theorem startsApart_message_iff {f : DocumentFault} :
    StartsApart f.message ↔ f.isOfServices = false := by
  refine ⟨?_, startsApart_message⟩
  rintro ⟨c, hc, hD, hS⟩
  cases f with
  | sharedId id =>
    rw [message_sharedId, String.toList_append, List.head?_append] at hc
    exact absurd (Option.some.inj hc).symm hD
  | noOperations service =>
    rw [message_noOperations, String.toList_append, List.head?_append] at hc
    exact absurd (Option.some.inj hc).symm hS
  | _ => rfl

end DocumentFault

/-! ## Objections -/

namespace Objection

/-- The objections are to one document alone. -/
def AreOwn (objections : List Objection) : Prop :=
  ∀ o ∈ objections, o.fault.isOfServices = false

variable {α : Type}

theorem areOwn_nil : AreOwn [] :=
  fun _ h => absurd h List.not_mem_nil

theorem areOwn_singleton {o : Objection} (h : o.fault.isOfServices = false) : AreOwn [o] := by
  intro o' ho'
  obtain rfl := List.mem_singleton.1 ho'
  exact h

theorem AreOwn.append {os os' : List Objection} (h : AreOwn os) (h' : AreOwn os') :
    AreOwn (os ++ os') :=
  List.forall_mem_append.2 ⟨h, h'⟩

theorem areOwn_flatMap {f : α → List Objection} {l : List α} (h : ∀ a ∈ l, AreOwn (f a)) :
    AreOwn (l.flatMap f) := by
  intro o ho
  obtain ⟨a, ha, ho⟩ := List.mem_flatMap.1 ho
  exact h a ha o ho

theorem areOwn_map {f : α → Objection} (h : ∀ a, (f a).fault.isOfServices = false) (l : List α) :
    AreOwn (l.map f) := by
  intro o ho
  obtain ⟨a, -, rfl⟩ := List.mem_map.1 ho
  exact h a

theorem areOwn_ite {p : Prop} [Decidable p] {os os' : List Objection} (h : AreOwn os)
    (h' : AreOwn os') : AreOwn (if p then os else os') := by
  by_cases hp : p
  · rwa [if_pos hp]
  · rwa [if_neg hp]

end Objection

namespace Node

open Objection

section

variable {targets : List String} {place : String}

theorem areOwn_refObjections (n : Node) : AreOwn (refObjections targets place n) :=
  areOwn_map (fun _ => rfl) _

theorem areOwn_contentObjections (owner : ContentOwner) (content : Option Node) :
    AreOwn (contentObjections targets place owner content) := by
  unfold contentObjections
  split
  · refine areOwn_flatMap fun e _ => areOwn_ite ?_ areOwn_nil
    split
    · exact areOwn_singleton rfl
    · exact areOwn_refObjections _
  · exact areOwn_singleton rfl

theorem areOwn_responsesObjections (responses : Option Node) :
    AreOwn (responsesObjections targets place responses) := by
  unfold responsesObjections
  split
  · exact areOwn_singleton rfl
  · exact areOwn_singleton rfl
  · refine areOwn_flatMap fun e _ => ?_
    refine (areOwn_ite areOwn_nil (areOwn_singleton rfl)).append (areOwn_ite ?_ areOwn_nil)
    exact areOwn_ite (areOwn_refObjections _) (areOwn_contentObjections _ _)
  · exact areOwn_singleton rfl

theorem areOwn_bodyObjections (body : Option Node) :
    AreOwn (bodyObjections targets place body) := by
  unfold bodyObjections
  split
  · exact areOwn_nil
  · exact areOwn_contentObjections _ _

theorem areOwn_parametersObjections (parameters : Option Node) :
    AreOwn (parametersObjections place parameters) := by
  unfold parametersObjections
  split
  · exact areOwn_nil
  · refine areOwn_flatMap fun parameter _ => areOwn_ite ?_ areOwn_nil
    split
    · exact areOwn_nil
    · exact (areOwn_ite (areOwn_singleton rfl) areOwn_nil).append
        (areOwn_ite (areOwn_singleton rfl) areOwn_nil)
  · exact areOwn_singleton rfl

theorem areOwn_operationObjections (operation : Node) :
    AreOwn (operationObjections targets place operation) :=
  ((areOwn_responsesObjections _).append (areOwn_bodyObjections _)).append
    (areOwn_parametersObjections _)

theorem areOwn_pathObjections (path : Scalar) (item : Node) :
    AreOwn (pathObjections targets path item) := by
  unfold pathObjections
  split
  · exact areOwn_nil
  · refine areOwn_flatMap fun e _ => areOwn_ite ?_ ?_
    · exact areOwn_ite (areOwn_operationObjections _) areOwn_nil
    · exact areOwn_ite areOwn_nil (areOwn_singleton rfl)

end

theorem isOfServices_of_mem_requiredFaults {document : Node} {f : DocumentFault}
    (h : f ∈ document.requiredFaults) : f.isOfServices = false := by
  have hone {p : Bool} {g : DocumentFault} (hg : g.isOfServices = false)
      (hf : f ∈ if p then [] else [g]) : f.isOfServices = false := by
    cases p with
    | true => cases hf
    | false =>
      obtain rfl := List.mem_singleton.1 hf
      exact hg
  rcases List.mem_append.1 h with h | h
  · rcases List.mem_append.1 h with h | h
    · exact hone rfl h
    · -- the title and the version of the information, or the information itself
      split at h
      · exact hone (p := false) rfl h
      · rcases List.mem_append.1 h with h | h
        · exact hone rfl h
        · exact hone rfl h
  · split at h
    · exact hone (p := false) rfl h
    · exact hone (p := false) rfl h
    · cases h

theorem areOwn_versionFaults (document : Node) : AreOwn document.versionFaults := by
  unfold versionFaults
  split
  · exact areOwn_nil
  · exact areOwn_ite areOwn_nil (areOwn_singleton rfl)
  · exact areOwn_singleton rfl

/-- The check of one document has no objection that is about services. -/
theorem areOwn_objections (document : Node) : AreOwn document.objections := by
  refine areOwn_ite ?_ (areOwn_singleton rfl)
  refine ((AreOwn.append ?_ (areOwn_versionFaults document)).append ?_).append ?_
  · intro o ho
    obtain ⟨f, hf, rfl⟩ := List.mem_map.1 ho
    exact isOfServices_of_mem_requiredFaults hf
  · exact areOwn_flatMap fun e _ => areOwn_pathObjections _ _
  · exact areOwn_ite (areOwn_map (fun _ => rfl) _) areOwn_nil

end Node

end SequenceApi
