import SequenceApi.Diagram.Build

/-!
# Pairing of requests and responses

Reading a diagram keeps one open request, which the next request replaces and its response closes.
What comes of it can be said without that state: the requests cut the tokens into segments, the
first response of a segment that comes back along its request answers it, and all other responses
are orphans.

## Main definitions

* `Token.untilRequest`, `Token.segments`: the tokens before the first request, and the requests,
  each with the tokens after it and before the next one
* `Token.replyTo?`, `Token.strays`: the first response that comes back along a request, and the
  responses that answer no request

## Main results

* `Token.untilRequest_append_segments`: the segments lose no token
* `Draft.origins_foldl_step`, `Draft.answers_foldl_step`, `Draft.strays_foldl_step`: what a run of
  tokens adds to any draft
* `Draft.forall_interactions_foldl_step`: what requests have, and answers and notes keep
* `Diagram.pairs_first_reply_of_segment`: requests, answers and orphans of a diagram
-/

namespace SequenceApi

namespace Token

/-- The request, if the token is one. -/
def request? : Token → Option Request
  | .request r => some r
  | _ => none

/-- The response, if the token is one. -/
def response? : Token → Option Response
  | .response r => some r
  | _ => none

/-- The responses among tokens, in order. -/
def responses (ts : List Token) : List Response :=
  ts.filterMap response?

/-- The tokens before the first request. -/
def untilRequest (ts : List Token) : List Token :=
  ts.takeWhile fun t => t.request?.isNone

/-- The requests among tokens, each with the tokens after it and before the next request. -/
def segments : List Token → List (Request × List Token)
  | [] => []
  | .request r :: ts => (r, untilRequest ts) :: segments ts
  | _ :: ts => segments ts

/-- The response comes back along the request: from its target to its source. -/
def isReplyTo (q : Request) (r : Response) : Bool :=
  q.target == r.source && q.source == r.target

/-- The first response of a segment that comes back along its request. -/
def replyTo? (s : Request × List Token) : Option Response :=
  (responses s.2).find? (isReplyTo s.1)

/-- The responses of a segment other than the one that answers its request. -/
def othersIn (s : Request × List Token) : List Response :=
  (responses s.2).eraseP (isReplyTo s.1)

/-- The responses that answer no request, in order. -/
def strays (ts : List Token) : List Response :=
  responses (untilRequest ts) ++ (segments ts).flatMap othersIn

/-! ## Segments -/

section Segments

variable (r : Request) (ts : List Token)

@[simp] theorem untilRequest_request : untilRequest (.request r :: ts) = [] := rfl

theorem untilRequest_cons_of_none {t : Token} (h : t.request? = none) :
    untilRequest (t :: ts) = t :: untilRequest ts := by
  simp [untilRequest, h]

@[simp] theorem segments_request :
    segments (.request r :: ts) = (r, untilRequest ts) :: segments ts := rfl

theorem segments_cons_of_none {t : Token} (h : t.request? = none) :
    segments (t :: ts) = segments ts := by
  cases t with
  | request r => simp [request?] at h
  | declaration d => rfl
  | response r => rfl
  | note n => rfl

/-- The segments lose no token: the tokens before the first request, and each request with its
segment, are all tokens in their order. -/
theorem untilRequest_append_segments :
    untilRequest ts ++ (segments ts).flatMap (fun s => .request s.1 :: s.2) = ts := by
  induction ts with
  | nil => rfl
  | cons t ts ih =>
    cases h : t.request? with
    | none => rw [untilRequest_cons_of_none ts h, segments_cons_of_none ts h, List.cons_append, ih]
    | some r =>
      obtain rfl : t = .request r := by
        cases t <;> simp_all [request?]
      rw [untilRequest_request, segments_request, List.flatMap_cons, List.nil_append,
        List.cons_append, ih]

theorem map_fst_segments : (segments ts).map Prod.fst = ts.filterMap request? := by
  induction ts with
  | nil => rfl
  | cons t ts ih => cases t <;> simpa [segments, request?, List.filterMap_cons] using ih

@[simp] theorem responses_nil : responses [] = [] := rfl

@[simp] theorem responses_request : responses (.request r :: ts) = responses ts := rfl

@[simp] theorem responses_response (a : Response) :
    responses (.response a :: ts) = a :: responses ts := rfl

@[simp] theorem responses_note (n : Note) : responses (.note n :: ts) = responses ts := rfl

@[simp] theorem responses_append (us : List Token) :
    responses (ts ++ us) = responses ts ++ responses us :=
  List.filterMap_append

theorem responses_flatMap (segs : List (Request × List Token)) :
    responses (segs.flatMap fun s => .request s.1 :: s.2) =
      segs.flatMap fun s => responses s.2 := by
  induction segs with
  | nil => rfl
  | cons s segs ih =>
    rw [List.flatMap_cons, responses_append, responses_request, ih, List.flatMap_cons]

end Segments

end Token

/-! ## Drafts -/

/-- What an interaction takes over from its request line. -/
def Request.origin (r : Request) : String × String × Method × String × Nat :=
  (r.source, r.target, r.method, r.path, r.line)

/-- What an interaction has from its request line. -/
def Interaction.origin (i : Interaction) : String × String × Method × String × Nat :=
  (i.source, i.target, i.method, i.path, i.line)

/-- The answer that a response gives. -/
def Response.answer (r : Response) : Answer :=
  ⟨r.status, r.description⟩

/-- The response that a remark finds orphaned. -/
def Remark.stray? : Remark → Option Response
  | .orphan r => some r
  | .badBody _ => none

namespace Draft

open Token

/-- The waiting request has no answer. -/
def IsOpen (d : Draft) : Prop :=
  ∀ i ∈ d.pending, i.answer = none

/-- The orphaned responses so far, in order. -/
def strays (d : Draft) : List Response :=
  d.remarks.filterMap Remark.stray?

@[simp] theorem origin_ofRequest (r : Request) : (Interaction.ofRequest r).origin = r.origin := rfl

@[simp] theorem origin_enrich (i : Interaction) (n : Note) : (enrich i n).origin = i.origin := rfl

@[simp] theorem answer_enrich (i : Interaction) (n : Note) : (enrich i n).answer = i.answer := rfl

theorem answers_ofRequest (r : Response) (q : Request) :
    answers r (Interaction.ofRequest q) = isReplyTo q r := rfl

@[simp] theorem answers_enrich (r : Response) (i : Interaction) (n : Note) :
    answers r (enrich i n) = answers r i := rfl

@[simp] theorem stray?_bodyRemarks (n : Note) : (bodyRemarks n).filterMap Remark.stray? = [] := by
  simp only [bodyRemarks]
  split <;> rfl

/-! ### Steps -/

theorem IsOpen.step {d : Draft} (h : d.IsOpen) (t : Token) : (d.step t).IsOpen := by
  cases t with
  | declaration _ => exact h
  | request r =>
    intro i hi
    obtain rfl : Interaction.ofRequest r = i := by simpa [Draft.step, addRequest] using hi
    rfl
  | response r =>
    simp only [Draft.step, addResponse]
    cases hp : d.pending with
    | none => simp [IsOpen]
    | some i =>
      dsimp only
      split
      · simp [IsOpen]
      · simpa [IsOpen] using h i hp
  | note n =>
    simp only [Draft.step, addNote]
    cases hp : d.pending with
    | none => exact h
    | some i =>
      dsimp only
      split
      · simpa [IsOpen] using h i hp
      · exact h

theorem origins_step (d : Draft) (t : Token) :
    (d.step t).interactions.map Interaction.origin =
      d.interactions.map Interaction.origin ++ t.request?.toList.map Request.origin := by
  cases t with
  | declaration _ => simp [Draft.step, request?]
  | request r => simp [Draft.step, addRequest, interactions, request?]
  | response r =>
    simp only [Draft.step, addResponse, request?]
    cases hp : d.pending with
    | none => simp [interactions, hp]
    | some i =>
      dsimp only
      split <;> simp [interactions, hp, Interaction.origin]
  | note n =>
    simp only [Draft.step, addNote, request?]
    cases hp : d.pending with
    | none => simp [interactions, hp]
    | some i =>
      dsimp only
      split <;> simp [interactions, hp]

/-! ### Runs -/

/-- Interactions have their requests in order. -/
theorem origins_foldl_step (ts : List Token) (d : Draft) :
    (ts.foldl Draft.step d).interactions.map Interaction.origin =
      d.interactions.map Interaction.origin ++ (ts.filterMap request?).map Request.origin := by
  induction ts generalizing d with
  | nil => simp
  | cons t ts ih =>
    rw [List.foldl_cons, ih, origins_step, List.append_assoc, ← List.map_append]
    cases h : t.request? <;> simp [h]

/-- The first response of a segment answers its request. A request that waits already is answered
by the responses before the next request. -/
theorem answers_foldl_step (ts : List Token) {d : Draft} (h : d.IsOpen) :
    (ts.foldl Draft.step d).interactions.map Interaction.answer =
      d.settled.map Interaction.answer ++
        d.pending.toList.map (fun i =>
          ((responses (untilRequest ts)).find? (answers · i)).map Response.answer) ++
        (segments ts).map fun s => (replyTo? s).map Response.answer := by
  -- Induction on the tokens, from any draft: the request that waits has the tokens up to the next.
  induction ts generalizing d with
  | nil =>
    have hi : d.pending.toList.map Interaction.answer = d.pending.toList.map fun _ => none :=
      List.map_congr_left fun i hi => h i (Option.mem_toList.1 hi)
    simp [interactions, segments, untilRequest, hi]
  | cons t ts ih =>
    rw [List.foldl_cons, ih (h.step t)]
    cases t with
    | declaration _ => rfl
    | request r =>
      -- The new request takes the tokens up to the next one: they are its segment.
      have hd : d.interactions.map Interaction.answer =
          d.settled.map Interaction.answer ++ d.pending.toList.map fun _ => none := by
        rw [interactions, List.map_append]
        exact congrArg _ (List.map_congr_left fun i hi => h i (Option.mem_toList.1 hi))
      simp only [Draft.step, addRequest, hd, Option.toList_some, List.map_cons, List.map_nil,
        answers_ofRequest, untilRequest_request, segments_request]
      simp [replyTo?]
    | response r =>
      rw [untilRequest_cons_of_none ts rfl, segments_cons_of_none ts rfl]
      simp only [Draft.step, addResponse]
      cases hp : d.pending with
      | none => simp
      | some i =>
        -- the first response that comes back is the answer, and the request waits no more
        dsimp only
        split
        · next ha => simp [ha, Response.answer]
        · next ha => simp [ha]
    | note n =>
      rw [untilRequest_cons_of_none ts rfl, segments_cons_of_none ts rfl]
      simp only [Draft.step, addNote]
      cases hp : d.pending with
      | none => simp [hp]
      | some i =>
        dsimp only
        split <;> simp [hp]

/-- The responses that answer no request are orphans, in order. -/
theorem strays_foldl_step (ts : List Token) (d : Draft) :
    (ts.foldl Draft.step d).strays =
      d.strays ++
        (d.pending.elim id (fun i => List.eraseP (answers · i))) (responses (untilRequest ts)) ++
        (segments ts).flatMap othersIn := by
  induction ts generalizing d with
  | nil => cases hp : d.pending <;> simp [segments, untilRequest]
  | cons t ts ih =>
    rw [List.foldl_cons, ih]
    cases t with
    | declaration _ => rfl
    | request r =>
      simp only [Draft.step, addRequest, Option.elim_some, answers_ofRequest,
        untilRequest_request, segments_request]
      cases hp : d.pending <;> simp [othersIn, strays]
    | response r =>
      rw [untilRequest_cons_of_none ts rfl, segments_cons_of_none ts rfl]
      simp only [Draft.step, addResponse]
      cases hp : d.pending with
      | none => simp [strays, Remark.stray?]
      | some i =>
        -- an answer is no orphan, and every later response of the segment is one
        dsimp only
        split
        · next ha => simp [strays, ha]
        · next ha => simp [strays, ha, Remark.stray?]
    | note n =>
      rw [untilRequest_cons_of_none ts rfl, segments_cons_of_none ts rfl]
      simp only [Draft.step, addNote]
      cases hp : d.pending with
      | none => simp [hp]
      | some i =>
        dsimp only
        split <;> simp [strays, hp]

/-! ### What all interactions have -/

section

variable {P : Interaction → Prop} (hrequest : ∀ r, P (Interaction.ofRequest r))
  (hanswer : ∀ i a, P i → P { i with answer := some a }) (hnote : ∀ i n, P i → P (enrich i n))
include hrequest hanswer hnote

theorem forall_interactions_step (t : Token) {d : Draft} (h : ∀ i ∈ d.interactions, P i) :
    ∀ i ∈ (d.step t).interactions, P i := by
  have hpending : ∀ i ∈ d.pending, P i :=
    fun i hi => h i (List.mem_append_right _ (Option.mem_toList.2 hi))
  have hsettled : ∀ i ∈ d.settled, P i := fun i hi => h i (List.mem_append_left _ hi)
  cases t with
  | declaration _ => exact h
  | request r =>
    intro i hi
    rcases List.mem_append.1 hi with hi | hi
    · exact h i hi
    · obtain rfl := List.mem_singleton.1 hi
      exact hrequest r
  | response r =>
    simp only [Draft.step, addResponse]
    cases hp : d.pending with
    | none => simpa [interactions, hp] using hsettled
    | some i =>
      dsimp only
      split
      · intro j hj
        rw [interactions, Option.toList_none, List.append_nil] at hj
        rcases List.mem_append.1 hj with hj | hj
        · exact hsettled j hj
        · obtain rfl := List.mem_singleton.1 hj
          exact hanswer i _ (hpending i hp)
      · simpa [interactions, hp] using h
  | note n =>
    simp only [Draft.step, addNote]
    cases hp : d.pending with
    | none => exact h
    | some i =>
      dsimp only
      split
      · intro j hj
        rcases List.mem_append.1 hj with hj | hj
        · exact hsettled j hj
        · obtain rfl := List.mem_singleton.1 hj
          exact hnote i n (hpending i hp)
      · exact h

theorem forall_interactions_foldl_step (ts : List Token) {d : Draft}
    (h : ∀ i ∈ d.interactions, P i) : ∀ i ∈ (ts.foldl Draft.step d).interactions, P i := by
  induction ts generalizing d with
  | nil => exact h
  | cons t ts ih => exact ih (forall_interactions_step hrequest hanswer hnote t h)

end

end Draft

/-! ## Diagrams -/

/-- The diagram of a text is that of its tokens. -/
theorem Diagram.exists_tokens {text : String} {d : Diagram} (h : read text = .ok d) :
    ∃ ts, Token.read text = .ok ts ∧ ofTokens ts = d := by
  rw [read] at h
  cases hts : Token.read text with
  | error e => simp [hts, Except.map] at h
  | ok ts => exact ⟨ts, rfl, by simpa [hts, Except.map] using h⟩

theorem Diagram.exists_read {text : String} {p : Diagram → Bool}
    (h : (Diagram.read text).toOption.any p = true) :
    ∃ d, Diagram.read text = .ok d ∧ p d = true := by
  cases hread : Diagram.read text with
  | error e => simp [hread, Except.toOption] at h
  | ok d => exact ⟨d, rfl, by simpa [hread, Except.toOption] using h⟩

theorem Remark.filter_not_isError (ms : List Remark) :
    ms.filter (fun m => !m.isError) = (ms.filterMap Remark.stray?).map Remark.orphan := by
  induction ms with
  | nil => rfl
  | cons m ms ih =>
    cases m with
    | orphan r => exact congrArg (orphan r :: ·) ih
    | badBody n => exact ih

/-- The first match and the other elements are all elements. -/
theorem Token.length_replyTo?_add_othersIn (s : Request × List Token) :
    (replyTo? s).toList.length + (othersIn s).length = (responses s.2).length := by
  rw [replyTo?, othersIn]
  induction responses s.2 with
  | nil => rfl
  | cons r rs ih =>
    cases h : isReplyTo s.1 r
    · simp [h, ← ih, Nat.add_assoc]
    · simp [h, Nat.add_comm]

/-- Every response answers a request or is a stray. -/
theorem Token.length_responses (ts : List Token) :
    (responses ts).length =
      ((segments ts).filter fun s => (replyTo? s).isSome).length + (strays ts).length := by
  have hs (segs : List (Request × List Token)) :
      (segs.flatMap fun s => responses s.2).length =
        (segs.filter fun s => (replyTo? s).isSome).length + (segs.flatMap othersIn).length := by
    induction segs with
    | nil => rfl
    | cons s segs ih =>
      have hl := length_replyTo?_add_othersIn s
      rw [List.flatMap_cons, List.flatMap_cons, List.length_append, List.length_append, ih, ← hl]
      cases h : replyTo? s with
      | none => simp [h]; omega
      | some r => simp [h]; omega
  calc (responses ts).length
      = (responses (untilRequest ts)).length +
          ((segments ts).flatMap fun s => responses s.2).length := by
        rw [← List.length_append, ← responses_flatMap, ← responses_append,
          untilRequest_append_segments]
    _ = _ := by rw [hs, strays, List.length_append]; omega

/-- **Pairing.** The interactions are the requests in order; each has for its answer the first
response of its segment that comes back along it; every other response is an orphan, once and in
order; and so the responses are as many as the answered interactions and the orphans together. -/
theorem Diagram.pairs_first_reply_of_segment (ts : List Token) :
    (Token.segments ts).map Prod.fst = ts.filterMap Token.request? ∧
      (ofTokens ts).interactions.map (fun i => (i.origin, i.answer)) =
        (Token.segments ts).map (fun s => (s.1.origin, (Token.replyTo? s).map Response.answer)) ∧
      (ofTokens ts).remarks.filter (fun m => !m.isError) =
        (Token.strays ts).map Remark.orphan ∧
      (Token.responses ts).length =
        ((ofTokens ts).interactions.filter fun i => i.answer.isSome).length +
          ((ofTokens ts).remarks.filter fun m => !m.isError).length := by
  have horigins : (ofTokens ts).interactions.map Interaction.origin =
      (Token.segments ts).map fun s => s.1.origin := by
    rw [ofTokens, Draft.origins_foldl_step, ← Token.map_fst_segments]
    simp [Draft.interactions]
  have hanswers : (ofTokens ts).interactions.map Interaction.answer =
      (Token.segments ts).map fun s => (Token.replyTo? s).map Response.answer := by
    rw [ofTokens, Draft.answers_foldl_step ts (by simp [Draft.IsOpen])]
    simp
  have hstrays : (ofTokens ts).remarks.filter (fun m => !m.isError) =
      (Token.strays ts).map Remark.orphan := by
    rw [Remark.filter_not_isError]
    exact congrArg (List.map Remark.orphan) (Draft.strays_foldl_step ts {})
  refine ⟨Token.map_fst_segments ts, ?_, hstrays, ?_⟩
  · calc (ofTokens ts).interactions.map (fun i => (i.origin, i.answer))
        = ((ofTokens ts).interactions.map Interaction.origin).zip
            ((ofTokens ts).interactions.map Interaction.answer) := List.zip_map'.symm
      _ = _ := by rw [horigins, hanswers, List.zip_map']
  · -- a segment has an answer just if its interaction has one
    rw [hstrays, List.length_map, Token.length_responses]
    refine congrArg (· + _) ?_
    have h := congrArg (fun l => (l.filter Option.isSome).length) hanswers
    simpa [List.filter_map, Function.comp_def] using h.symm

end SequenceApi
