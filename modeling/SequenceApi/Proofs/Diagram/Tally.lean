import Mathlib.Data.List.Perm.Basic
import SequenceApi.Proofs.Diagram.Waiting

/-!
# Responses are tallied by direction

The strict check keeps all requests that wait in one list. A response searches it from the latest
request on, and takes one out of its middle. All the same, places in the list do not matter: a
response comes back along the requests of one direction, and each of them serves it as well as any
other. So it only counts how many of that direction wait, and these are the requests that came less
those that were answered. A response is orphaned when the two are equally many, and the check of one
direction does not see what goes on between the records of it.

## Main definitions

* `Check.goes`, `Check.isCall`, `Check.isReply`, `Check.isOn`: the links of a direction, and its
  requests and responses
* `Check.Context.judged`: records, each with what is found about it
* `Check.answered`, `Check.verdicts`: how many responses of a direction are not orphaned, and which
* `Check.tally`: the verdicts on a direction by counting

## Main results

* `Check.countP_waitingAfter`, `Check.Context.countP_after`: requests are not lost, in a step and in
  a run
* `Check.Context.verdicts_judged`: each direction is judged by its own records
* `Check.orphans_by_direction`: orphans by counting, however the directions are mixed
-/

namespace SequenceApi

namespace Check

/-! ## Directions -/

section Directions

variable (a b : String)

/-- The link goes from one name to another. -/
def goes (l : Link) : Bool :=
  l.source == a && l.target == b

/-- The record is a request from the one to the other. -/
def isCall : Record → Bool
  | .request l => goes a b l
  | _ => false

/-- The record is a response that comes back along such a request. -/
def isReply : Record → Bool
  | .response l => goes b a l
  | _ => false

/-- The record is a request or a response of the direction. -/
def isOn (r : Record) : Bool :=
  isCall a b r || isReply a b r

end Directions

variable {a b : String}

theorem goes_iff {l : Link} : goes a b l = true ↔ l.source = a ∧ l.target = b := by
  rw [goes, Bool.and_eq_true, beq_iff_eq, beq_iff_eq]

/-- The links that a response comes back along are those of one direction. -/
theorem isReverse_eq_goes (l : Link) : isReverse l = goes l.target l.source := by
  funext k
  rw [Bool.eq_iff_iff, goes_iff, isReverse, Bool.and_eq_true, beq_iff_eq, beq_iff_eq]
  constructor
  · rintro ⟨hs, ht⟩
    exact ⟨ht.symm, hs.symm⟩
  · rintro ⟨hs, ht⟩
    exact ⟨ht.symm, hs.symm⟩

/-! ## Records with what is found about them -/

/-- The records, each with what is found about it after those before it. -/
def Context.judged (c : Context) : List Record → List (Record × List Finding)
  | [] => []
  | r :: rs => (r, (c.step r).1) :: Context.judged (c.step r).2 rs

theorem Context.map_fst_judged (c : Context) (rs : List Record) :
    (c.judged rs).map Prod.fst = rs := by
  induction rs generalizing c with
  | nil => rfl
  | cons r rs ih => rw [judged, List.map_cons, ih]

theorem Context.flatMap_snd_judged (c : Context) (rs : List Record) :
    (c.judged rs).flatMap Prod.snd = c.run rs := by
  induction rs generalizing c with
  | nil => rfl
  | cons r rs ih => rw [judged, List.flatMap_cons, ih, run]

theorem Context.take_judged (c : Context) (rs : List Record) (k : Nat) :
    (c.judged rs).take k = c.judged (rs.take k) := by
  induction rs generalizing c k with
  | nil => rw [List.take_nil, judged, List.take_nil]
  | cons r rs ih =>
    cases k with
    | zero => rfl
    | succ k => rw [judged, List.take_succ_cons, List.take_succ_cons, judged, ih]

/-- What is found about the record at a place depends on the records before it. -/
theorem Context.getElem?_judged (c : Context) (rs : List Record) (k : Nat) :
    (c.judged rs)[k]? = rs[k]?.map fun r => (r, ((c.after (rs.take k)).step r).1) := by
  induction rs generalizing c k with
  | nil => rfl
  | cons r rs ih =>
    cases k with
    | zero => rfl
    | succ k =>
      rw [judged, List.getElem?_cons_succ, List.getElem?_cons_succ, ih]
      rfl

/-- The record is found to be an orphan. -/
def isOrphaned (e : Record × List Finding) : Bool :=
  e.2.any (·.fault.isOrphan)

/-- How many responses of a direction are no orphans. -/
def answered (a b : String) (es : List (Record × List Finding)) : Nat :=
  es.countP fun e => isReply a b e.1 && !isOrphaned e

/-- The records of a direction, each with whether it is an orphan. -/
def verdicts (a b : String) (es : List (Record × List Finding)) : List (Record × Bool) :=
  (es.filter (isOn a b ·.1)).map fun e => (e.1, isOrphaned e)

theorem verdicts_cons_of_isOn {e : Record × List Finding} (h : isOn a b e.1 = true)
    (es : List (Record × List Finding)) :
    verdicts a b (e :: es) = (e.1, isOrphaned e) :: verdicts a b es := by
  rw [verdicts, List.filter_cons, if_pos h]
  rfl

theorem verdicts_cons_of_not_isOn {e : Record × List Finding} (h : ¬ isOn a b e.1 = true)
    (es : List (Record × List Finding)) : verdicts a b (e :: es) = verdicts a b es := by
  rw [verdicts, List.filter_cons, if_neg h]
  rfl

/-- The verdicts on the records of a direction, some requests of which wait: a response is an orphan
if none is left. -/
def tally : Nat → List Record → List (Record × Bool)
  | _, [] => []
  | n, r :: rs =>
    (r, r.isResponse && n == 0) :: tally (if r.isResponse then n - 1 else n + 1) rs

/-- What counts of the records is which of them are responses. -/
theorem map_snd_tally {rs rs' : List Record}
    (h : rs.map Record.isResponse = rs'.map Record.isResponse) (n : Nat) :
    (tally n rs).map Prod.snd = (tally n rs').map Prod.snd := by
  induction rs generalizing n rs' with
  | nil =>
    obtain rfl : rs' = [] := List.map_eq_nil_iff.1 h.symm
    rfl
  | cons r rs ih =>
    cases rs' with
    | nil => cases h
    | cons r' rs' =>
      obtain ⟨hhead, hrest⟩ := List.cons.inj h
      rw [tally, tally, List.map_cons, List.map_cons, hhead, ih hrest]

/-! ## One record -/

/-- A record is a response of a direction, a request of it, or neither. -/
theorem direction_cases (a b : String) (r : Record) :
    (isReply a b r = true ∧ isCall a b r = false ∧ r.isResponse = true) ∨
      (isCall a b r = true ∧ isReply a b r = false ∧ r.isResponse = false) ∨
      isCall a b r = false ∧ isReply a b r = false := by
  cases r with
  | declaration _ => exact .inr (.inr ⟨rfl, rfl⟩)
  | note _ => exact .inr (.inr ⟨rfl, rfl⟩)
  | request l =>
    cases h : goes a b l with
    | true => exact .inr (.inl ⟨h, rfl, rfl⟩)
    | false => exact .inr (.inr ⟨h, rfl⟩)
  | response l =>
    cases h : goes b a l with
    | true => exact .inl ⟨h, rfl, rfl⟩
    | false => exact .inr (.inr ⟨rfl, h⟩)

theorem countP_eraseP_self (waiting : List Link) :
    (waiting.eraseP (goes a b)).countP (goes a b) = waiting.countP (goes a b) - 1 := by
  induction waiting with
  | nil => rfl
  | cons l waiting ih =>
    cases hl : goes a b l with
    | true => simp [hl]
    | false => simp [hl, ih]

/-- To take a link out of one direction leaves those of another. -/
theorem countP_eraseP_of_disjoint {p : Link → Bool} (h : ∀ l, p l = true → goes a b l = false)
    (waiting : List Link) :
    (waiting.eraseP p).countP (goes a b) = waiting.countP (goes a b) := by
  induction waiting with
  | nil => rfl
  | cons l waiting ih =>
    cases hl : p l with
    | true => simp [hl, h l hl]
    | false => rw [List.eraseP_cons_of_neg (by simp [hl]), List.countP_cons, List.countP_cons, ih]

/-- A request of a direction waits, a response takes one away if there is one, and all else leaves
them as many as they are. -/
theorem countP_waitingAfter (waiting : List Link) (r : Record) :
    (waitingAfter waiting r).countP (goes a b) =
      if isCall a b r then waiting.countP (goes a b) + 1
      else if isReply a b r then waiting.countP (goes a b) - 1
      else waiting.countP (goes a b) := by
  cases r with
  | declaration d => rfl
  | note n => rfl
  | request l =>
    rw [waitingAfter, List.countP_cons]
    cases h : goes a b l <;> simp [isCall, isReply, h]
  | response l =>
    rw [waitingAfter, isReverse_eq_goes, if_neg (by simp [isCall])]
    by_cases hl : isReply a b (.response l) = true
    · -- the link is taken out of the direction itself
      obtain ⟨hs, ht⟩ := goes_iff.1 hl
      rw [if_pos hl, hs, ht, countP_eraseP_self]
    · -- it is taken out of another one
      rw [if_neg hl]
      apply countP_eraseP_of_disjoint
      intro k hk
      rw [Bool.eq_false_iff]
      intro hk'
      obtain ⟨hs, ht⟩ := goes_iff.1 hk
      obtain ⟨hs', ht'⟩ := goes_iff.1 hk'
      exact hl (goes_iff.2 ⟨ht.symm.trans ht', hs.symm.trans hs'⟩)

theorem isOrphaned_eq (c : Context) (r : Record) :
    isOrphaned (r, (c.step r).1) = !(orphanOf c.waiting r).isEmpty := by
  rw [← Context.filter_step, isOrphaned, Bool.eq_iff_iff]
  simp

/-- A response is an orphan, and nothing else is found about it, when no request of its direction
waits. -/
theorem fst_step_response (c : Context) (l : Link) :
    (c.step (.response l)).1 =
      if c.waiting.countP (goes l.target l.source) = 0 then
        [⟨some l.line, .orphan l.source l.target⟩]
      else [] := by
  simp only [Context.step, isReverse_eq_goes]
  cases hany : c.waiting.any (goes l.target l.source) with
  | true =>
    obtain ⟨k, hk, hgoes⟩ := List.any_eq_true.1 hany
    have hwaits : 0 < c.waiting.countP (goes l.target l.source) :=
      List.countP_pos_iff.2 ⟨k, hk, hgoes⟩
    rw [if_pos rfl, if_neg hwaits.ne']
  | false =>
    have hnone : c.waiting.countP (goes l.target l.source) = 0 :=
      List.countP_eq_zero.2 (List.any_eq_false.1 hany)
    rw [if_neg Bool.false_ne_true, if_pos hnone]

theorem isOrphaned_of_isReply {c : Context} {r : Record} (h : isReply a b r = true) :
    isOrphaned (r, (c.step r).1) = (c.waiting.countP (goes a b) == 0) := by
  cases r with
  | response l =>
    obtain ⟨rfl, rfl⟩ := goes_iff.1 h
    rw [isOrphaned, fst_step_response, Bool.eq_iff_iff, beq_iff_eq]
    split
    · next hnone => simp [hnone, DiagramFault.isOrphan]
    · next hwaits => simp [hwaits]
  | _ => cases h

/-- No other record is an orphan. -/
theorem isOrphaned_of_not_isResponse {c : Context} {r : Record} (h : r.isResponse = false) :
    isOrphaned (r, (c.step r).1) = false := by
  rw [isOrphaned_eq]
  cases r with
  | response l => cases h
  | _ => rfl

/-- A request of a direction is one more that waits or is answered, and no other record changes
their number. -/
theorem countP_step (c : Context) (r : Record) :
    (c.step r).2.waiting.countP (goes a b) + answered a b [(r, (c.step r).1)] =
      c.waiting.countP (goes a b) + [r].countP (isCall a b) := by
  have hwaiting := countP_waitingAfter (a := a) (b := b) c.waiting r
  rw [← Context.waiting_step] at hwaiting
  rw [hwaiting, answered, List.countP_singleton, List.countP_singleton]
  rcases direction_cases a b r with ⟨hreply, hcall, -⟩ | ⟨hcall, hreply, -⟩ | ⟨hcall, hreply⟩
  · -- the response takes one that waits, or is an orphan as there is none
    rw [isOrphaned_of_isReply hreply]
    by_cases hnone : c.waiting.countP (goes a b) = 0
    · simp [hcall, hreply, hnone]
    · simp [hcall, hreply, hnone]
      omega
  · simp [hcall, hreply]
  · simp [hcall, hreply]

/-! ## All records -/

namespace Context

/-- Requests are not lost: those that wait and those that were answered are those that came. -/
theorem countP_after (c : Context) (rs : List Record) :
    (c.after rs).waiting.countP (goes a b) + answered a b (c.judged rs) =
      c.waiting.countP (goes a b) + rs.countP (isCall a b) := by
  induction rs generalizing c with
  | nil => rfl
  | cons r rs ih =>
    have hstep := countP_step (a := a) (b := b) c r
    have hrest := ih (c.step r).2
    have hafter : c.after (r :: rs) = (c.step r).2.after rs := rfl
    have hhere : answered a b (c.judged (r :: rs)) =
        answered a b [(r, (c.step r).1)] + answered a b ((c.step r).2.judged rs) := by
      rw [answered, answered, answered, ← List.countP_append]
      rfl
    have hcalls : (r :: rs).countP (isCall a b) =
        [r].countP (isCall a b) + rs.countP (isCall a b) := by
      rw [← List.countP_append, List.singleton_append]
    rw [hafter, hhere, hcalls]
    omega

/-- Each direction is judged by its own records, and by how many of its requests wait. -/
theorem verdicts_judged (c : Context) (rs : List Record) :
    verdicts a b (c.judged rs) =
      tally (c.waiting.countP (goes a b)) (rs.filter (isOn a b)) := by
  induction rs generalizing c with
  | nil => rfl
  | cons r rs ih =>
    have hwaiting := countP_waitingAfter (a := a) (b := b) c.waiting r
    rw [← waiting_step] at hwaiting
    rw [judged]
    rcases direction_cases a b r with ⟨hreply, hcall, hresponse⟩ | ⟨hcall, hreply, hresponse⟩ |
      ⟨hcall, hreply⟩
    · have hon : isOn a b r = true := by rw [isOn, hreply, Bool.or_true]
      rw [hcall, if_neg Bool.false_ne_true, if_pos hreply] at hwaiting
      rw [verdicts_cons_of_isOn hon, List.filter_cons_of_pos hon, tally, ih, hwaiting, hresponse,
        if_pos rfl, Bool.true_and, isOrphaned_of_isReply hreply]
    · have hon : isOn a b r = true := by rw [isOn, hcall, Bool.true_or]
      rw [if_pos hcall] at hwaiting
      rw [verdicts_cons_of_isOn hon, List.filter_cons_of_pos hon, tally, ih, hwaiting, hresponse,
        if_neg Bool.false_ne_true, Bool.false_and, isOrphaned_of_not_isResponse hresponse]
    · -- a record of another direction is passed over
      have hoff : ¬ isOn a b r = true := by simp [isOn, hcall, hreply]
      rw [hcall, hreply, if_neg Bool.false_ne_true, if_neg Bool.false_ne_true] at hwaiting
      rw [verdicts_cons_of_not_isOn hoff, List.filter_cons_of_neg hoff, ih, hwaiting]

/-- Of a record the check finds an orphan of a direction just if it is one of its responses, and is
orphaned. -/
theorem filter_fst_step (c : Context) (r : Record) :
    (c.step r).1.filter (·.fault == .orphan b a) =
      if isReply a b r && isOrphaned (r, (c.step r).1) then [⟨some r.line, .orphan b a⟩]
      else [] := by
  have horphans : (c.step r).1.filter (·.fault == .orphan b a) =
      (orphanOf c.waiting r).filter (·.fault == .orphan b a) := by
    rw [← filter_step, List.filter_filter]
    refine List.filter_congr fun f _ => ?_
    cases hf : f.fault == .orphan b a with
    | false => rfl
    | true => rw [eq_of_beq hf]; rfl
  rw [horphans, isOrphaned_eq]
  cases r with
  | response l =>
    rw [orphanOf]
    split
    · simp
    · by_cases hl : isReply a b (.response l) = true
      · obtain ⟨rfl, rfl⟩ := goes_iff.1 hl
        simp [hl, Record.line]
      · have hother : ¬ (l.source = b ∧ l.target = a) := fun h => hl (goes_iff.2 h)
        simp [hl, hother]
  | _ => simp [orphanOf]

/-- The orphans of a direction are found by the verdicts on it. -/
theorem filter_run_orphan (c : Context) (rs : List Record) :
    (c.run rs).filter (·.fault == .orphan b a) =
      ((verdicts a b (c.judged rs)).filter (·.2)).map fun v => ⟨some v.1.line, .orphan b a⟩ := by
  induction rs generalizing c with
  | nil => rfl
  | cons r rs ih =>
    rw [run, List.filter_append, filter_fst_step, ih, judged]
    rcases direction_cases a b r with ⟨hreply, -, -⟩ | ⟨hcall, hreply, hresponse⟩ | ⟨hcall, hreply⟩
    · have hon : isOn a b r = true := by rw [isOn, hreply, Bool.or_true]
      rw [verdicts_cons_of_isOn hon, hreply, Bool.true_and, List.filter_cons]
      cases isOrphaned (r, (c.step r).1) <;> rfl
    · -- a request has a verdict too, but is no orphan
      have hon : isOn a b r = true := by rw [isOn, hcall, Bool.true_or]
      rw [verdicts_cons_of_isOn hon, hreply, isOrphaned_of_not_isResponse hresponse,
        List.filter_cons_of_neg Bool.false_ne_true]
      rfl
    · rw [verdicts_cons_of_not_isOn (by simp [isOn, hcall, hreply]), hreply]
      rfl

/-- The orphans of records are those of their directions. -/
theorem perm_of_verdicts {c c' : Context} {rs rs' : List Record}
    (h : ∀ a b, verdicts a b (c.judged rs) = verdicts a b (c'.judged rs')) :
    ((c.run rs).filter (·.fault.isOrphan)).Perm ((c'.run rs').filter (·.fault.isOrphan)) := by
  rw [List.perm_iff_count]
  rintro ⟨line, fault⟩
  cases fault with
  | orphan b a =>
    have hrun (c : Context) (rs : List Record) :
        ((c.run rs).filter (·.fault.isOrphan)).count ⟨line, .orphan b a⟩ =
          ((c.run rs).filter (·.fault == .orphan b a)).count ⟨line, .orphan b a⟩ := by
      rw [List.count_filter rfl, List.count_filter (by simp)]
    rw [hrun, hrun, filter_run_orphan, filter_run_orphan, h a b]
  | _ =>
    rw [List.count_eq_zero.2 (by simp [DiagramFault.isOrphan]),
      List.count_eq_zero.2 (by simp [DiagramFault.isOrphan])]

end Context

/-- A response is orphaned just if as many requests came before it in its direction as responses of
the direction were answered, and that is all the check finds about it. So what is orphaned in a
direction depends on the order of its requests and responses alone, and records that agree in every
direction have the same orphans, in whatever order the directions are mixed. -/
theorem orphans_by_direction (declared : List String) (rs : List Record) :
    let es := ({ declared } : Context).judged rs
    (es.map Prod.fst = rs ∧ es.flatMap Prod.snd = ({ declared } : Context).run rs) ∧
      (∀ k l fs, es[k]? = some (.response l, fs) →
        fs =
          if (rs.take k).countP (isCall l.target l.source) =
              answered l.target l.source (es.take k) then
            [⟨some l.line, .orphan l.source l.target⟩]
          else []) ∧
      ∀ declared' rs',
        let es' := ({ declared := declared' } : Context).judged rs'
        (∀ a b,
          (rs.filter (isOn a b)).map Record.isResponse =
              (rs'.filter (isOn a b)).map Record.isResponse →
            (verdicts a b es).map Prod.snd = (verdicts a b es').map Prod.snd) ∧
          ((∀ a b, rs.filter (isOn a b) = rs'.filter (isOn a b)) →
            ((es.flatMap Prod.snd).filter (·.fault.isOrphan)).Perm
              ((es'.flatMap Prod.snd).filter (·.fault.isOrphan))) := by
  intro es
  refine ⟨⟨Context.map_fst_judged _ rs, Context.flatMap_snd_judged _ rs⟩, ?_, ?_⟩
  · intro k l fs hk
    rw [Context.getElem?_judged] at hk
    obtain ⟨r, -, hr⟩ := Option.map_eq_some_iff.1 hk
    obtain ⟨rfl, rfl⟩ := Prod.mk.inj hr
    -- nothing waits at the start
    have hcount : _ + _ = 0 + _ :=
      Context.countP_after (a := l.target) (b := l.source) { declared } (rs.take k)
    rw [fst_step_response, Context.take_judged]
    exact if_congr (by omega) rfl rfl
  · intro declared' rs' es'
    constructor
    · intro a b hab
      rw [Context.verdicts_judged, Context.verdicts_judged]
      exact map_snd_tally hab 0
    · intro hab
      rw [Context.flatMap_snd_judged, Context.flatMap_snd_judged]
      apply Context.perm_of_verdicts
      intro a b
      rw [Context.verdicts_judged, Context.verdicts_judged, hab a b]

/-- Two responses come back along one request, so the second is an orphan, and it stays one when a
request that the end sends to itself comes first and not last. -/
theorem orphans_by_direction_of_twoReplies :
    let early : List Record := [.request ⟨1, "A", "B"⟩, .response ⟨2, "B", "A"⟩,
      .response ⟨3, "B", "A"⟩]
    let own : Record := .request ⟨4, "A", "A"⟩
    let es := ({ declared := ["A", "B"] } : Context).judged (early ++ [own])
    let es' := ({ declared := ["A"] } : Context).judged (own :: early)
    (es[2]? = some (.response ⟨3, "B", "A"⟩, [⟨some 3, .orphan "B" "A"⟩]) ∧
        (early.take 2).countP (isCall "A" "B") = 1 ∧ answered "A" "B" (es.take 2) = 1) ∧
      ((es.flatMap Prod.snd).filter (·.fault.isOrphan)).Perm
        ((es'.flatMap Prod.snd).filter (·.fault.isOrphan)) := by
  intro early own es es'
  have hes : es[2]? = some (.response ⟨3, "B", "A"⟩, [⟨some 3, .orphan "B" "A"⟩]) := by rfl
  obtain ⟨-, hcount, hmixed⟩ := orphans_by_direction ["A", "B"] (early ++ [own])
  -- an orphan is found, so the numbers are equal
  have heq := hcount 2 _ _ hes
  have hcalls : (early.take 2).countP (isCall "A" "B") = 1 := by decide +kernel
  refine ⟨⟨hes, hcalls, ?_⟩, (hmixed ["A"] (own :: early)).2 fun a b => ?_⟩
  · by_contra hne
    rw [if_neg fun h => hne (h.symm.trans hcalls)] at heq
    cases heq
  · -- the request at the end is of another direction than all else
    by_cases hown : isOn a b own = true
    · have hgoes : goes a b ⟨4, "A", "A"⟩ = true := by simpa [own, isOn, isCall, isReply] using hown
      obtain ⟨rfl, rfl⟩ := goes_iff.1 hgoes
      rfl
    · rw [List.filter_append, List.filter_cons_of_neg hown, List.filter_cons_of_neg hown,
        List.filter_nil, List.append_nil]

end Check

end SequenceApi
