import Mathlib.Data.List.Basic
import Mathlib.Data.List.Induction
import SequenceApi.Proofs.Diagram.Decomposition

/-!
# Notes enrich the request before them

A note adds to the open request if it stands over its target. One note can set the body, append
declarations of security and set fields of the operation, each by a rule of its own, and a body that
is no JSON keeps nothing of the rest away. What comes of all notes can be said without the draft.
The notes that are attached to a request are those of its segment up to the response, over its
target; what is set is what the last of them sets, and what is appended is appended in order.

## Main definitions

* `Token.leavesOpen`, `Token.attached`: the tokens that keep a request open, and the notes that are
  attached to the request of a segment
* `Token.IsAttached`: a note after some tokens is attached to a request among them
* `Note.latest`, `Interaction.withNotes`: what the last note sets, and an interaction with notes
* `Interaction.ofSegment`: the interaction of a segment

## Main results

* `Draft.foldl_enrich`: to enrich by one note after the other is to take what each rule says of all
* `Draft.foldl_step_of_pending`: what the tokens up to the next request make of the open one
* `Draft.exists_request_of_pending`: where the open request stands among the tokens
* `Diagram.enrichment_by_attached_notes`: interactions and lost bodies of a diagram, and the notes
  that do nothing
-/

namespace SequenceApi

/-! ## Attached notes -/

namespace Token

/-- The note, if the token is one. -/
def note? : Token → Option Note
  | .note n => some n
  | _ => none

/-- The token keeps the request open: it is no other request, and no response that comes back along
the request. -/
def leavesOpen (r : Request) (t : Token) : Bool :=
  t.request?.isNone && !t.response?.any (isReplyTo r)

/-- The notes that are attached to the request of a segment: those over its target, up to the
response. -/
def attached (s : Request × List Token) : List Note :=
  ((s.2.takeWhile (leavesOpen s.1)).filterMap note?).filter (·.participants.contains s.1.target)

/-- A note that comes after the tokens is attached to a request among them: the request is still
open, and the note stands over its target. -/
def IsAttached (before : List Token) (n : Note) (r : Request) : Prop :=
  ∃ earlier later, before = earlier ++ .request r :: later ∧ later.all (leavesOpen r) = true ∧
    r.target ∈ n.participants

variable {r : Request} {ts : List Token}

theorem attached_cons_of_note (n : Note) :
    attached (r, .note n :: ts) =
      if n.participants.contains r.target then n :: attached (r, ts) else attached (r, ts) := by
  rw [attached, List.takeWhile_cons_of_pos rfl, List.filterMap_cons_some (f := note?) rfl,
    List.filter_cons]
  rfl

theorem attached_cons_of_leavesOpen {t : Token} (h : leavesOpen r t = true)
    (hnote : t.note? = none) : attached (r, t :: ts) = attached (r, ts) := by
  rw [attached, List.takeWhile_cons_of_pos h, List.filterMap_cons_none hnote]
  rfl

theorem attached_cons_of_not_leavesOpen {t : Token} (h : ¬ leavesOpen r t = true) :
    attached (r, t :: ts) = [] := by
  rw [attached, List.takeWhile_cons_of_neg h]
  rfl

end Token

/-! ## What notes add -/

namespace Note

/-- The body in a note, if it is JSON. -/
def decoded? (n : Note) : Option Json :=
  (body? n.content).bind Except.toOption

/-- The note has a body that is no JSON. -/
def isUndecodable (n : Note) : Bool :=
  (body? n.content).any fun b => b.toOption.isNone

/-- The fields of an operation that a note sets. -/
def metadata (n : Note) : Metadata :=
  Metadata.ofNote n.content

/-- What the last of some notes sets, of those that set it at all. -/
def latest {α : Type} (f : Note → Option α) (ns : List Note) : Option α :=
  (ns.filterMap f).getLast?

@[simp] theorem latest_nil {α : Type} (f : Note → Option α) : latest f [] = none := rfl

/-- A later note comes first. -/
@[simp] theorem latest_cons {α : Type} (f : Note → Option α) (n : Note) (ns : List Note) :
    latest f (n :: ns) = (latest f ns).or (f n) := by
  rw [latest, latest]
  cases h : f n with
  | none => rw [List.filterMap_cons_none h, Option.or_none]
  | some v => rw [List.filterMap_cons_some h, List.getLast?_cons, Option.or_some]

end Note

namespace Interaction

open Note

/-- The interaction with what notes add: the last body that is JSON, all declarations of security,
and of each field what the last note says of it. -/
def withNotes (i : Interaction) (ns : List Note) : Interaction :=
  { i with
    body := (latest decoded? ns).getD i.body
    security := i.security ++ ns.flatMap fun n => Descriptor.ofNote n.content
    summary := (latest (·.metadata.summary) ns).or i.summary
    description := (latest (·.metadata.description) ns).or i.description
    operationId := (latest (·.metadata.operationId) ns).or i.operationId
    requestMediaType := (latest (·.metadata.requestMediaType) ns).or i.requestMediaType
    responseMediaType := (latest (·.metadata.responseMediaType) ns).or i.responseMediaType
    tags := (latest (·.metadata.tags) ns).getD i.tags
    deprecated := (latest (·.metadata.deprecated) ns).getD i.deprecated
    externalDocs := (latest (·.metadata.externalDocs) ns).or i.externalDocs }

/-- The interaction of a segment: its request with the notes that are attached to it, and the first
response that comes back. -/
def ofSegment (s : Request × List Token) : Interaction :=
  { (ofRequest s.1).withNotes (Token.attached s) with
    answer := (Token.replyTo? s).map Response.answer }

end Interaction

namespace Draft

open Token

/-- One note adds what a list of it alone adds. -/
theorem enrich_eq_withNotes (i : Interaction) (n : Note) : enrich i n = i.withNotes [n] := by
  simp only [enrich, Interaction.annotate, Interaction.withNotes, Note.metadata, Note.latest_cons,
    Note.latest_nil, Option.none_or, List.flatMap_cons, List.flatMap_nil, List.append_nil,
    Note.decoded?]
  -- the body is set just if there is one that can be read
  rcases Note.body? n.content with _ | _ | _ <;> rfl

theorem withNotes_withNotes (i : Interaction) (n : Note) (ns : List Note) :
    (i.withNotes [n]).withNotes ns = i.withNotes (n :: ns) := by
  simp [Interaction.withNotes, Option.or_assoc]

/-- To enrich by one note after the other is to take what each rule says of all of them. -/
theorem foldl_enrich (i : Interaction) (ns : List Note) : ns.foldl enrich i = i.withNotes ns := by
  induction ns generalizing i with
  | nil => simp [Interaction.withNotes]
  | cons n ns ih => rw [List.foldl_cons, ih, enrich_eq_withNotes, withNotes_withNotes]

theorem bodyRemarks_eq (n : Note) :
    bodyRemarks n = if n.isUndecodable then [.badBody n] else [] := by
  rw [bodyRemarks, Note.isUndecodable]
  rcases Note.body? n.content with _ | _ | _ <;> rfl

theorem flatMap_bodyRemarks (ns : List Note) :
    ns.flatMap bodyRemarks = (ns.filter (·.isUndecodable)).map Remark.badBody := by
  induction ns with
  | nil => rfl
  | cons n ns ih =>
    rw [List.flatMap_cons, ih, bodyRemarks_eq, List.filter_cons]
    cases n.isUndecodable <;> rfl

/-- A note that says nothing adds nothing. -/
theorem enrich_of_empty (i : Interaction) {n : Note} (h : n.content = "") : enrich i n = i := by
  have hbody : Note.body? "" = none := rfl
  have hsecurity : Descriptor.ofNote "" = [] := rfl
  have hmetadata : Metadata.ofNote "" = {} := rfl
  simp [enrich, Interaction.annotate, h, hbody, hsecurity, hmetadata]

theorem bodyRemarks_of_empty {n : Note} (h : n.content = "") : bodyRemarks n = [] := by
  rw [bodyRemarks, h]
  rfl

/-- So it does not matter that such notes are passed over. -/
theorem step_note_of_pending {d : Draft} {i : Interaction} (hi : d.pending = some i) (n : Note) :
    d.step (.note n) =
      if n.participants.contains i.target then
        { d with pending := some (enrich i n), remarks := d.remarks ++ bodyRemarks n }
      else d := by
  simp only [step, addNote, hi, concerns]
  by_cases hempty : n.content = ""
  · rw [enrich_of_empty i hempty, bodyRemarks_of_empty hempty, List.append_nil, ← hi]
    simp [hempty]
  · simp [hempty]

theorem step_note_of_idle {d : Draft} (hd : d.pending = none) (n : Note) :
    d.step (.note n) = d := by
  simp only [step, addNote, hd]

/-- A response that comes back closes the open request. -/
theorem step_response_of_answers {d : Draft} {i : Interaction} (hi : d.pending = some i)
    {a : Response} (h : answers a i = true) :
    d.step (.response a) =
      { d with settled := d.settled ++ [{ i with answer := some a.answer }], pending := none } := by
  simp only [step, addResponse, hi, h, if_true]
  rfl

/-- A response that does not is an orphan. -/
theorem step_response_of_stray {d : Draft} {a : Response}
    (h : ∀ i ∈ d.pending, ¬ answers a i = true) :
    d.step (.response a) = { d with remarks := d.remarks ++ [.orphan a] } := by
  cases hi : d.pending with
  | none => simp only [step, addResponse, hi]
  | some i =>
    simp only [step, addResponse, hi]
    rw [if_neg (h i hi)]

/-! ## Runs -/

section Runs

variable {ts : List Token} (hts : ∀ t ∈ ts, t.request? = none) {d : Draft}
include hts

/-- Where no request is open, tokens before the next one leave the interactions and the errors. -/
theorem foldl_step_of_idle (hd : d.pending = none) :
    (ts.foldl step d).interactions = d.settled ∧
      (ts.foldl step d).remarks.filter Remark.isError = d.remarks.filter Remark.isError := by
  induction ts generalizing d with
  | nil => exact ⟨by simp [interactions, hd], rfl⟩
  | cons t ts ih =>
    obtain ⟨ht, hrest⟩ := List.forall_mem_cons.1 hts
    rw [List.foldl_cons]
    cases t with
    | declaration _ => exact ih hrest hd
    | request r => cases ht
    | response a =>
      -- it is an orphan, and that is no error
      rw [step_response_of_stray (by simp [hd])]
      obtain ⟨hinteractions, herrors⟩ := ih hrest
        (d := { d with remarks := d.remarks ++ [.orphan a] }) hd
      exact ⟨hinteractions, herrors.trans (by simp [Remark.isError])⟩
    | note n =>
      rw [step_note_of_idle hd]
      exact ih hrest hd

/-- What the tokens before the next request make of the open one: it takes the notes attached to it
and the first response that comes back, and each of these notes that has a bad body is an error. -/
theorem foldl_step_of_pending {r : Request} {i : Interaction} (hi : d.pending = some i)
    (hsource : i.source = r.source) (htarget : i.target = r.target) (hanswer : i.answer = none) :
    (ts.foldl step d).interactions =
        d.settled ++ [{ (attached (r, ts)).foldl enrich i with
          answer := (replyTo? (r, ts)).map Response.answer }] ∧
      (ts.foldl step d).remarks.filter Remark.isError =
        d.remarks.filter Remark.isError ++ (attached (r, ts)).flatMap bodyRemarks := by
  -- Induction on the tokens: the open request keeps its ends while notes are added to it.
  induction ts generalizing d i with
  | nil =>
    have hsame : ({ i with answer := none } : Interaction) = i := by rw [← hanswer]
    refine ⟨?_, (List.append_nil _).symm⟩
    rw [List.foldl_nil, interactions, hi]
    exact congrArg (d.settled ++ [·]) hsame.symm
  | cons t ts ih =>
    obtain ⟨ht, hrest⟩ := List.forall_mem_cons.1 hts
    rw [List.foldl_cons]
    cases t with
    | declaration _ =>
      rw [attached_cons_of_leavesOpen rfl rfl]
      exact ih hrest hi hsource htarget hanswer
    | request q => cases ht
    | response a =>
      have hends : answers a i = isReplyTo r a := by rw [answers, hsource, htarget, isReplyTo]
      by_cases hreply : isReplyTo r a = true
      · -- the response closes the request, and later notes come too late
        have hclosed : ¬ leavesOpen r (.response a) = true := by
          simp [leavesOpen, response?, hreply]
        have hfirst : replyTo? (r, .response a :: ts) = some a := by simp [replyTo?, hreply]
        rw [attached_cons_of_not_leavesOpen hclosed, hfirst,
          step_response_of_answers hi (hends.trans hreply)]
        obtain ⟨hinteractions, herrors⟩ := foldl_step_of_idle hrest
          (d := { d with settled := d.settled ++ [{ i with answer := some a.answer }],
                         pending := none }) rfl
        exact ⟨hinteractions, herrors.trans (List.append_nil _).symm⟩
      · have hstray : ∀ j ∈ d.pending, ¬ answers a j = true := by
          intro j hj
          obtain rfl : i = j := Option.some_inj.1 (hi.symm.trans hj)
          rwa [hends]
        have hopen : leavesOpen r (.response a) = true := by
          simp [leavesOpen, response?, hreply, request?]
        have hlater : replyTo? (r, .response a :: ts) = replyTo? (r, ts) := by
          simp [replyTo?, hreply]
        rw [attached_cons_of_leavesOpen hopen rfl, hlater, step_response_of_stray hstray]
        obtain ⟨hinteractions, herrors⟩ := ih hrest
          (d := { d with remarks := d.remarks ++ [.orphan a] }) hi hsource htarget hanswer
        refine ⟨hinteractions, herrors.trans ?_⟩
        simp [Remark.isError]
    | note n =>
      rw [step_note_of_pending hi, htarget, attached_cons_of_note]
      split
      · -- the note is added, and what comes after is added to the result
        obtain ⟨hinteractions, herrors⟩ := ih hrest
          (d := { d with pending := some (enrich i n), remarks := d.remarks ++ bodyRemarks n })
          rfl hsource htarget hanswer
        refine ⟨hinteractions, herrors.trans ?_⟩
        have hall : (bodyRemarks n).filter Remark.isError = bodyRemarks n := by
          rw [bodyRemarks_eq]
          split <;> rfl
        rw [List.filter_append, hall, List.flatMap_cons, List.append_assoc]
      · exact ih hrest hi hsource htarget hanswer

end Runs

/-- A request with the tokens of its segment makes one interaction, and the errors of its notes. -/
theorem foldl_step_segment {s : Request × List Token} (hs : ∀ t ∈ s.2, t.request? = none) :
    ((.request s.1 :: s.2).foldl step {}).interactions = [Interaction.ofSegment s] ∧
      ((.request s.1 :: s.2).foldl step {}).remarks.filter Remark.isError =
        (attached s).flatMap bodyRemarks := by
  obtain ⟨hinteractions, herrors⟩ := foldl_step_of_pending hs (d := step {} (.request s.1))
    (r := s.1) (i := Interaction.ofRequest s.1) rfl rfl rfl rfl
  rw [foldl_enrich] at hinteractions
  exact ⟨hinteractions, herrors⟩

theorem filter_remarks_segments {segs : List (Request × List Token)}
    (h : ∀ s ∈ segs, ∀ t ∈ s.2, t.request? = none) :
    ((segs.flatMap fun s => Token.request s.1 :: s.2).foldl step {}).remarks.filter Remark.isError =
      (segs.flatMap attached).flatMap bodyRemarks := by
  induction segs with
  | nil => rfl
  | cons s segs ih =>
    obtain ⟨hs, hsegs⟩ := List.forall_mem_cons.1 h
    rw [List.flatMap_cons, List.foldl_append, remarks_foldl_step (flatMap_segments_cases segs),
      List.filter_append, ih hsegs, (foldl_step_segment hs).2, List.flatMap_cons,
      List.flatMap_append]

/-- The open request is the latest among the tokens, and all tokens after it have left it open. -/
theorem exists_request_of_pending {ts : List Token} {i : Interaction}
    (h : (ts.foldl step {}).pending = some i) :
    ∃ earlier r later, ts = earlier ++ .request r :: later ∧ later.all (leavesOpen r) = true ∧
      i.source = r.source ∧ i.target = r.target := by
  -- Induction from the end: the last token opens the request or has left it open.
  induction ts using List.reverseRecOn generalizing i with
  | nil => cases h
  | append_singleton ts t ih =>
    rw [List.foldl_append, List.foldl_cons, List.foldl_nil] at h
    have hleft {j : Interaction} (hj : (ts.foldl step {}).pending = some j)
        (hsource : i.source = j.source) (htarget : i.target = j.target)
        (ht : ∀ r : Request, j.source = r.source → j.target = r.target → leavesOpen r t = true) :
        ∃ earlier r later, ts ++ [t] = earlier ++ .request r :: later ∧
          later.all (leavesOpen r) = true ∧ i.source = r.source ∧ i.target = r.target := by
      obtain ⟨earlier, r, later, rfl, hlater, hs, htgt⟩ := ih hj
      refine ⟨earlier, r, later ++ [t], by simp, ?_, hsource.trans hs, htarget.trans htgt⟩
      rw [List.all_append, hlater, List.all_cons, ht r hs htgt]
      rfl
    cases t with
    | declaration _ => exact hleft h rfl rfl fun _ _ _ => rfl
    | request r =>
      obtain rfl : Interaction.ofRequest r = i := Option.some_inj.1 h
      exact ⟨ts, r, [], rfl, rfl, rfl, rfl⟩
    | response a =>
      cases hj : (ts.foldl step {}).pending with
      | none =>
        rw [step_response_of_stray (by simp [hj]), hj] at h
        cases h
      | some j =>
        by_cases hreply : answers a j = true
        · rw [step_response_of_answers hj hreply] at h
          cases h
        · rw [step_response_of_stray (by simpa [hj] using hreply), hj] at h
          obtain rfl := Option.some_inj.1 h
          refine hleft hj rfl rfl fun r hs ht => ?_
          rw [answers, hs, ht] at hreply
          simp [leavesOpen, request?, response?, isReplyTo, hreply]
    | note n =>
      cases hj : (ts.foldl step {}).pending with
      | none =>
        rw [step_note_of_idle hj, hj] at h
        cases h
      | some j =>
        rw [step_note_of_pending hj] at h
        split at h
        · obtain rfl : enrich j n = i := Option.some_inj.1 h
          exact hleft hj rfl rfl fun _ _ _ => rfl
        · obtain rfl : j = i := Option.some_inj.1 (hj.symm.trans h)
          exact hleft hj rfl rfl fun _ _ _ => rfl

/-- A note that is attached to no request leaves the draft as it is. -/
theorem step_note_of_not_isAttached {before : List Token} {n : Note}
    (h : ∀ r, ¬ IsAttached before n r) :
    (before.foldl step {}).step (.note n) = before.foldl step {} := by
  cases hi : (before.foldl step {}).pending with
  | none => exact step_note_of_idle hi n
  | some i =>
    obtain ⟨earlier, r, later, hbefore, hlater, -, htarget⟩ := exists_request_of_pending hi
    rw [step_note_of_pending hi, if_neg]
    intro hover
    refine h r ⟨earlier, later, hbefore, hlater, ?_⟩
    rw [htarget, List.contains_iff_mem] at hover
    exact hover

end Draft

/-! ## Diagrams -/

/-- **Enrichment.** Every interaction is its request with what the notes attached to it add and the
first response that comes back; the errors are the attached notes with a body that is no JSON, in
order; and a note that is attached to no request may as well not be there. -/
theorem Diagram.enrichment_by_attached_notes (ts : List Token) :
    (ofTokens ts).interactions = (Token.segments ts).map Interaction.ofSegment ∧
      (ofTokens ts).remarks.filter Remark.isError =
        (((Token.segments ts).flatMap Token.attached).filter Note.isUndecodable).map
          Remark.badBody ∧
      ∀ before n after, ts = before ++ .note n :: after →
        (∀ r, ¬ Token.IsAttached before n r) → ofTokens (before ++ after) = ofTokens ts := by
  have hsegments : ∀ s ∈ Token.segments ts, ∀ t ∈ s.2, t.request? = none := fun s hs =>
    List.filterMap_eq_nil_iff.1 (Token.requests_of_mem_segments hs)
  refine ⟨?_, ?_, ?_⟩
  · have hsingle : Function.Injective fun i : Interaction => [i] := fun i j h => (List.cons.inj h).1
    apply List.map_injective_iff.2 hsingle
    rw [interactions_eq_segments, List.map_map]
    exact List.map_congr_left fun s hs => (Draft.foldl_step_segment (hsegments s hs)).1
  · -- the tokens before the first request make no error
    have hidle : ∀ t ∈ Token.untilRequest ts, t.request? = none := fun t ht =>
      Token.request?_of_mem_untilRequest ht
    obtain ⟨-, hfirst⟩ := Draft.foldl_step_of_idle hidle (d := {}) rfl
    have hrest := Draft.remarks_foldl_step
      (Token.flatMap_segments_cases (Token.segments ts))
      ((Token.untilRequest ts).foldl Draft.step {})
    rw [← List.foldl_append, Token.untilRequest_append_segments] at hrest
    rw [← Draft.flatMap_bodyRemarks, ← Draft.filter_remarks_segments hsegments]
    calc (ofTokens ts).remarks.filter Remark.isError
        = _ := congrArg (List.filter Remark.isError) hrest
      _ = _ := by rw [List.filter_append, hfirst]; rfl
  · rintro before n after rfl h
    rw [ofTokens, ofTokens]
    simp only [List.foldl_append, List.foldl_cons, List.flatMap_append, List.flatMap_cons]
    rw [Draft.step_note_of_not_isAttached h]
    rfl

/-- A request, a note with a body and a summary, a note with a bad body and a declaration of
security, and the response. -/
def Token.enriched : List Token :=
  [.request ⟨1, "App", "Shop", .post, "/carts", some "Open"⟩,
    .note ⟨2, ["Shop"], "Summary: Fill\\nBody: 7"⟩,
    .note ⟨3, ["Shop"], "Security: bearerAuth\\nBody: x"⟩,
    .response ⟨4, "Shop", "App", "200", none⟩]

/-- The bad body does not keep its note's other part away, and a note after the response does
nothing. -/
theorem Diagram.enrichment_by_attached_notes_of_enriched :
    let late : Note := ⟨5, ["Shop"], "Body: 8"⟩
    (∀ r, ¬ Token.IsAttached Token.enriched late r) ∧
      ofTokens Token.enriched = ofTokens (Token.enriched ++ [.note late]) ∧
      (ofTokens Token.enriched).interactions.map (fun i => (i.summary, i.answer, i.security)) =
        [(some "Fill", some ⟨"200", none⟩, [⟨.bearer, "bearerAuth"⟩])] ∧
      (ofTokens Token.enriched).interactions.all (fun i => i.body matches .int 7) = true ∧
      (ofTokens Token.enriched).remarks.filter Remark.isError =
        [.badBody ⟨3, ["Shop"], "Security: bearerAuth\\nBody: x"⟩] := by
  intro late
  have hlate : ∀ r, ¬ Token.IsAttached Token.enriched late r := by
    rintro r ⟨earlier, later, hbefore, hlater, -⟩
    -- the request is the first token, and the last one closes it
    obtain rfl : earlier = [] := by
      cases earlier with
      | nil => rfl
      | cons t earlier =>
        have hmem : Token.request r ∈ Token.enriched.tail := by simp [hbefore]
        simp [Token.enriched] at hmem
    obtain ⟨hr, rfl⟩ := List.cons.inj hbefore
    obtain rfl := Token.request.inj hr
    revert hlater
    decide +kernel
  obtain ⟨hinteractions, herrors, -⟩ := enrichment_by_attached_notes Token.enriched
  obtain ⟨-, -, hother⟩ := enrichment_by_attached_notes (Token.enriched ++ [.note late])
  refine ⟨hlate, by simpa using hother Token.enriched late [] rfl hlate, ?_, ?_, ?_⟩
  · rw [hinteractions]
    decide +kernel
  · rw [hinteractions]
    decide +kernel
  · rw [herrors]
    decide +kernel

end SequenceApi
