import Mathlib.Data.List.TakeWhile
import SequenceApi.Proofs.Diagram.Pairing

/-!
# Diagrams decompose at requests

A request settles what was open, and nothing settled is looked at again. So a diagram can be cut in
front of any request: its two parts are read apart, and put together they are the whole. Cut at all
requests, every interaction comes from its own segment, and nothing of one segment gets into another.

## Main definitions

* `Draft.behind`: a draft with more interactions and remarks in front of it

## Main results

* `Draft.step_behind`, `Draft.foldl_step_behind`: what is in front takes no part in a step or a run
* `Draft.interactions_foldl_step`, `Draft.remarks_foldl_step`: a run from a request on adds what it
  makes from nothing
* `Diagram.decomposes_at_requests`: the parts of a diagram and the whole
-/

namespace SequenceApi

namespace Draft

variable {is : List Interaction} {ms : List Remark} {d : Draft}

/-- The draft with other interactions and remarks in front of its own. -/
def behind (is : List Interaction) (ms : List Remark) (d : Draft) : Draft :=
  { d with settled := is ++ d.settled, remarks := ms ++ d.remarks }

@[simp] theorem settled_behind : (d.behind is ms).settled = is ++ d.settled := rfl

@[simp] theorem pending_behind : (d.behind is ms).pending = d.pending := rfl

@[simp] theorem remarks_behind : (d.behind is ms).remarks = ms ++ d.remarks := rfl

@[simp] theorem interactions_behind : (d.behind is ms).interactions = is ++ d.interactions :=
  List.append_assoc ..

/-! ## Steps -/

/-- What is in front takes no part in a step: a step looks at the open request alone. -/
theorem step_behind (t : Token) : (d.behind is ms).step t = (d.step t).behind is ms := by
  cases t with
  | declaration _ => rfl
  | request r => simp [step, addRequest, behind, interactions]
  | response r =>
    simp only [step, addResponse, pending_behind]
    cases d.pending with
    | none => simp [behind]
    | some i =>
      -- an answer goes to the end of what is settled, an orphan to the end of the remarks
      dsimp only
      split <;> simp [behind]
  | note n =>
    simp only [step, addNote, pending_behind]
    cases d.pending with
    | none => rfl
    | some i =>
      dsimp only
      split
      · simp [behind]
      · rfl

/-- A request after a draft opens what it opens at the start, behind all that there is. -/
theorem step_request (d : Draft) (r : Request) :
    d.step (.request r) = (step {} (.request r)).behind d.interactions d.remarks := by
  simp [step, addRequest, behind, interactions]

/-! ## Runs -/

theorem foldl_step_behind (ts : List Token) (d : Draft) :
    ts.foldl step (d.behind is ms) = (ts.foldl step d).behind is ms := by
  induction ts generalizing d with
  | nil => rfl
  | cons t ts ih => rw [List.foldl_cons, step_behind, ih, List.foldl_cons]

/-- A run from a request on makes what it makes from nothing, behind all that there is. -/
theorem foldl_step_request (r : Request) (ts : List Token) (d : Draft) :
    (Token.request r :: ts).foldl step d =
      ((Token.request r :: ts).foldl step {}).behind d.interactions d.remarks := by
  rw [List.foldl_cons, step_request, foldl_step_behind, List.foldl_cons]

section

variable {us : List Token} (hus : us = [] ∨ ∃ r vs, us = .request r :: vs) (d : Draft)
include hus

theorem interactions_foldl_step :
    (us.foldl step d).interactions = d.interactions ++ (us.foldl step {}).interactions := by
  rcases hus with rfl | ⟨r, vs, rfl⟩
  · simp [interactions]
  · rw [foldl_step_request, interactions_behind]

theorem remarks_foldl_step :
    (us.foldl step d).remarks = d.remarks ++ (us.foldl step {}).remarks := by
  rcases hus with rfl | ⟨r, vs, rfl⟩
  · simp
  · rw [foldl_step_request, remarks_behind]

end

end Draft

/-! ## Segments apart -/

namespace Token

theorem request?_of_mem_untilRequest {ts : List Token} {t : Token} (h : t ∈ untilRequest ts) :
    t.request? = none := by
  simpa using List.mem_takeWhile_imp h

/-- No request stands in a segment after the first. -/
theorem requests_of_mem_segments {ts : List Token} {s : Request × List Token}
    (h : s ∈ segments ts) : s.2.filterMap request? = [] := by
  induction ts with
  | nil => simp [segments] at h
  | cons t ts ih =>
    cases t with
    | request r =>
      rcases List.mem_cons.1 h with rfl | h
      · exact List.filterMap_eq_nil_iff.2 fun t ht => request?_of_mem_untilRequest ht
      · exact ih h
    | declaration _ => exact ih h
    | response _ => exact ih h
    | note _ => exact ih h

theorem flatMap_segments_cases (segs : List (Request × List Token)) :
    (segs.flatMap fun s => Token.request s.1 :: s.2) = [] ∨
      ∃ r vs, (segs.flatMap fun s => Token.request s.1 :: s.2) = .request r :: vs := by
  cases segs with
  | nil => exact .inl rfl
  | cons s segs => exact .inr ⟨s.1, s.2 ++ segs.flatMap fun s => .request s.1 :: s.2, rfl⟩

end Token

namespace Draft

open Token

/-- There are as many interactions as requests. -/
theorem length_interactions (ts : List Token) :
    (ts.foldl step {}).interactions.length = (ts.filterMap request?).length := by
  simpa [interactions] using congrArg List.length (origins_foldl_step ts {})

/-- The interactions of segments in a row are those of each segment alone. -/
theorem interactions_segments {segs : List (Request × List Token)}
    (h : ∀ s ∈ segs, s.2.filterMap request? = []) :
    ((segs.flatMap fun s => Token.request s.1 :: s.2).foldl step {}).interactions.map ([·]) =
      segs.map fun s => ((Token.request s.1 :: s.2).foldl step {}).interactions := by
  induction segs with
  | nil => rfl
  | cons s segs ih =>
    obtain ⟨hs, hsegs⟩ := List.forall_mem_cons.1 h
    -- a segment has one request, and so it makes one interaction
    have hone : ((Token.request s.1 :: s.2).foldl step {}).interactions.length = 1 := by
      rw [length_interactions, List.filterMap_cons_some (f := request?) rfl, hs,
        List.length_singleton]
    obtain ⟨i, hi⟩ := List.length_eq_one_iff.1 hone
    rw [List.flatMap_cons, List.foldl_append, interactions_foldl_step (flatMap_segments_cases segs),
      List.map_append, ih hsegs, List.map_cons, hi]
    rfl

end Draft

/-! ## Diagrams -/

namespace Diagram

/-- The interactions of a diagram are those of its segments, each read alone. -/
theorem interactions_eq_segments (ts : List Token) :
    (ofTokens ts).interactions.map ([·]) =
      (Token.segments ts).map fun s => (ofTokens (.request s.1 :: s.2)).interactions := by
  -- the tokens before the first request make no interaction
  have hfirst : ((Token.untilRequest ts).foldl Draft.step {}).interactions = [] := by
    rw [← List.length_eq_zero_iff, Draft.length_interactions, List.length_eq_zero_iff]
    exact List.filterMap_eq_nil_iff.2 fun t ht => Token.request?_of_mem_untilRequest ht
  have hrest := Draft.interactions_foldl_step
    (Token.flatMap_segments_cases (Token.segments ts)) ((Token.untilRequest ts).foldl Draft.step {})
  rw [← List.foldl_append, Token.untilRequest_append_segments, hfirst, List.nil_append] at hrest
  rw [ofTokens, hrest]
  exact Draft.interactions_segments fun s hs => Token.requests_of_mem_segments hs

/-- **Decomposition.** Cut in front of a request, a diagram falls into two: the interactions and the
remarks of the parts, in order, are those of the whole, and who takes part in the whole takes part
in one of them. So each interaction comes from its segment alone: from its request and the tokens
before the next one. -/
theorem decomposes_at_requests (ts : List Token) {us : List Token}
    (hus : us = [] ∨ ∃ r vs, us = .request r :: vs) :
    (ofTokens (ts ++ us)).interactions = (ofTokens ts).interactions ++ (ofTokens us).interactions ∧
      (ofTokens (ts ++ us)).remarks = (ofTokens ts).remarks ++ (ofTokens us).remarks ∧
      (∀ name, name ∈ (ofTokens (ts ++ us)).participants ↔
        name ∈ (ofTokens ts).participants ∨ name ∈ (ofTokens us).participants) ∧
      (ofTokens ts).interactions.map ([·]) =
        (Token.segments ts).map fun s => (ofTokens (.request s.1 :: s.2)).interactions := by
  refine ⟨?_, ?_, fun name => ?_, interactions_eq_segments ts⟩
  · simpa only [ofTokens, List.foldl_append] using Draft.interactions_foldl_step hus _
  · simpa only [ofTokens, List.foldl_append] using Draft.remarks_foldl_step hus _
  · simp only [ofTokens, List.mem_eraseDups, List.flatMap_append, List.mem_append]

/-- A request that is still open at the end, with a note to it. -/
def openPart : List Token :=
  [.request ⟨1, "App", "Shop", .post, "/carts", none⟩,
    .note ⟨2, ["Shop"], "Security: bearerAuth"⟩]

/-- A request with a response that would answer the open request too. -/
def nextPart : List Token :=
  [.request ⟨3, "App", "Shop", .get, "/carts", none⟩, .response ⟨4, "Shop", "App", "200", none⟩]

theorem decomposes_at_requests_of_open :
    (nextPart = [] ∨ ∃ r vs, nextPart = .request r :: vs) ∧
      (ofTokens (openPart ++ nextPart)).interactions =
        (ofTokens openPart).interactions ++ (ofTokens nextPart).interactions ∧
      (ofTokens (openPart ++ nextPart)).remarks =
        (ofTokens openPart).remarks ++ (ofTokens nextPart).remarks := by
  have h : nextPart = [] ∨ ∃ r vs, nextPart = .request r :: vs := .inr ⟨_, _, rfl⟩
  obtain ⟨hinteractions, hremarks, -⟩ := decomposes_at_requests openPart h
  exact ⟨h, hinteractions, hremarks⟩

end Diagram

end SequenceApi
