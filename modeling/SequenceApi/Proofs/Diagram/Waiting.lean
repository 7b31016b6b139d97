import SequenceApi.Proofs.Diagram.Growth
import SequenceApi.Proofs.Diagram.Status

/-!
# The open request waits

Reading a diagram keeps one open request, and the strict check keeps a list of requests that wait.
A response closes the one if it comes back along it, and takes the latest request along which it
comes back from the other. The two go over different lines: the check also takes a call with a word
that is no method for a request, where the reader may see a declaration, a note or nothing. Still
the open request is always among those that wait. So a response that the reader pairs is never
orphaned for the check, and each orphan of the check is an orphan of the reader.

## Main definitions

* `Check.Aligned`: the tokens and the records of one text
* `Draft.Waits`: the open request is among links that wait
* `Check.start`, `Check.Context.after`: what the check knows at first, and after records

## Main results

* `Check.aligned_of_ofLines`: tokens and records of lines are aligned
* `Draft.Waits.step`, `Draft.Waits.run`: the open request waits after a line, and after all lines
* `Draft.Waits.orphans`: the orphans of aligned records are among the strays of the tokens
* `Diagram.orphans_are_remarks`: the same for the check and the reading of a text
-/

namespace SequenceApi

open Text

/-! ## Tokens and records of a line -/

/-- The token is a request or a response. -/
def Token.isArrow : Token → Bool
  | .request _ | .response _ => true
  | _ => false

/-- The record is a response. -/
def Record.isResponse : Record → Bool
  | .response _ => true
  | _ => false

/-- The link that the check keeps of a response. -/
def Response.link (r : Response) : Link :=
  ⟨r.line, r.source, r.target⟩

/-- What the check finds about a response that is an orphan. -/
def Response.finding (r : Response) : Finding :=
  ⟨some r.line, .orphan r.source r.target⟩

/-- A line with an arrow has a name before it, and a name between it and the colon. -/
theorem Arrow.read_cases {l : List Char} {a : Arrow} (h : read l = some a) :
    ∃ rest between after, Head.read (l.dropWhile (· != '-')) = some (a.head, rest) ∧
      cut ':' rest = (between, some after) ∧ l.takeWhile (· != '-') ≠ [] ∧ between ≠ [] ∧
      a = ⟨a.head, String.ofList (trim (l.takeWhile (· != '-'))), String.ofList (trim between),
        dropOneBlank after⟩ := by
  unfold read at h
  dsimp only at h
  split at h
  · cases h
  next hbefore =>
  split at h
  · cases h
  next head rest hhead =>
  split at h
  · cases h
  next between after hcut =>
  split at h
  · cases h
  next hbetween =>
  obtain rfl := Option.some_inj.1 h
  exact ⟨rest, between, after, hhead, hcut, by simpa using hbefore, by simpa using hbetween, rfl⟩

theorem Arrow.read_eq_none {l : List Char} (h : '-' ∉ l) : Arrow.read l = none := by
  have hrest : l.dropWhile (· != '-') = [] := by
    rw [List.dropWhile_eq_nil_iff]
    intro c hc
    exact bne_iff_ne.2 (ne_of_mem_of_not_mem hc h)
  by_contra hsome
  obtain ⟨a, ha⟩ := Option.ne_none_iff_exists'.1 hsome
  obtain ⟨rest, -, -, hhead, -⟩ := read_cases ha
  rw [hrest] at hhead
  cases hhead

/-- The keyword alone has no arrow: no letter of it is a hyphen in another case. -/
theorem Arrow.read_of_isKeyword {l : List Char} (h : isKeyword "participant" l = true) :
    Arrow.read l = none := by
  apply Arrow.read_eq_none
  intro hmem
  obtain ⟨i, hi, hget⟩ := List.mem_iff_getElem.1 hmem
  have hf := isKeyword_iff.1 h
  have hi' : i < "participant".toList.length := by rwa [hf.length_eq]
  have hsame : sameLetter "participant".toList[i] '-' = true := hget ▸ hf.get hi' hi
  have hnone : "participant".toList.all (fun p => !sameLetter p '-') = true := by decide +kernel
  have hdiffers := List.all_eq_true.1 hnone _ (List.getElem_mem hi')
  rw [hsame] at hdiffers
  cases hdiffers

namespace Check

/-- Where the reader has a request or a response, the check has it too. -/
theorem snd_entry_of_isArrow {n : Nat} {l : List Char} {t : Token}
    (h : Token.ofLine n l = .ok (some t)) (ht : t.isArrow = true) :
    (entry n l).2 = some t.record := by
  have hkind : (∃ r, t = .request r) ∨ ∃ r, t = .response r := by
    cases t with
    | request r => exact .inl ⟨r, rfl⟩
    | response r => exact .inr ⟨r, rfl⟩
    | _ => cases ht
  obtain ⟨hink, a, harrow, hread⟩ := Token.exists_arrow_of_ofLine h hkind
  rw [entry_of_ink hink, line]
  split
  · next hkeyword =>
    rw [Arrow.read_of_isKeyword hkeyword] at harrow
    cases harrow
  · rw [harrow, Option.bind_some]
    rcases arrow_cases n a with ⟨hn, -⟩ | ⟨u, hu, hrecord⟩ | ⟨w, fs, r, hn, -⟩ | ⟨e, he⟩
    · simp [hn] at hread
    · obtain rfl : u = t := by simpa [hu] using hread
      obtain ⟨⟨fs, _⟩, hfs, rfl⟩ := Option.map_eq_some_iff.1 hrecord
      rw [hfs]
    · simp [hn] at hread
    · simp [he] at hread

theorem exists_response_of_arrow? {n : Nat} {a : Arrow} {fs : List Finding} {k : Link}
    (h : arrow? n a = some (fs, .response k)) :
    ∃ r, Token.ofArrow? n a = some (.ok (.response r)) ∧ r.link = k := by
  unfold arrow? at h
  split at h
  · -- a call gives no response
    split at h
    · split at h <;> cases h
    · cases h
  · next hhead =>
    obtain ⟨label, hlabel, hk⟩ := Option.map_eq_some_iff.1 h
    refine ⟨⟨n, a.source, a.target, String.ofList label.status, label.description⟩, ?_, ?_⟩
    · simp [Token.ofArrow?, hhead, hlabel]
    · simp only [Prod.mk.injEq, Record.response.injEq] at hk
      exact hk.2

/-- Where the check has a response, the reader has it too. -/
theorem ofLine_of_isResponse {n : Nat} {l : List Char} {k : Link}
    (h : (entry n l).2 = some (.response k)) :
    ∃ r, Token.ofLine n l = .ok (some (.response r)) ∧ r.link = k := by
  unfold entry at h
  split at h
  · cases h
  · next hink =>
    unfold line at h
    split at h
    · cases h
    · split at h
      · next fs record hb =>
        obtain rfl : record = .response k := by simpa using h
        obtain ⟨a, ha, hcheck⟩ := Option.bind_eq_some_iff.1 hb
        obtain ⟨r, hr, hlink⟩ := exists_response_of_arrow? hcheck
        refine ⟨r, ?_, hlink⟩
        rw [Token.ofLine, if_neg hink, ha, Option.bind_some, hr]
        rfl
      · -- what has no arrow is a declaration, a note or nothing
        split at h <;> cases h

/-! ## All lines -/

/-- The tokens and the records of one text. They go together, except that a token can lack its
record if it is no arrow, and a record its token if it is no response. -/
inductive Aligned : List Token → List Record → Prop where
  | nil : Aligned [] []
  | both (t : Token) {ts : List Token} {rs : List Record} :
    Aligned ts rs → Aligned (t :: ts) (t.record :: rs)
  | token {t : Token} {ts : List Token} {rs : List Record} :
    t.isArrow = false → Aligned ts rs → Aligned (t :: ts) rs
  | record {r : Record} {ts : List Token} {rs : List Record} :
    r.isResponse = false → Aligned ts rs → Aligned ts (r :: rs)

theorem Aligned.cons_line {n : Nat} {l : List Char} {o : Option Token} {ts : List Token}
    {rs : List Record} (h : Token.ofLine n l = .ok o) (hrest : Aligned ts rs) :
    Aligned (o.toList ++ ts) ((entry n l).2.toList ++ rs) := by
  -- an arrow of the reader has its record
  have harrow : ∀ t, o = some t → t.isArrow = true → (entry n l).2 = some t.record := by
    rintro t rfl ht
    exact snd_entry_of_isArrow h ht
  cases hrecord : (entry n l).2 with
  | none =>
    cases o with
    | none => exact hrest
    | some t =>
      refine .token ?_ hrest
      by_contra ht
      simp [harrow t rfl (by simpa using ht)] at hrecord
  | some r =>
    cases hr : r.isResponse with
    | true =>
      -- a response of the check has its token
      cases r with
      | response k =>
        obtain ⟨a, ha, rfl⟩ := ofLine_of_isResponse hrecord
        obtain rfl : o = some (.response a) := by simpa [h] using ha
        exact .both (.response a) hrest
      | _ => cases hr
    | false =>
      cases o with
      | none => exact .record hr hrest
      | some t =>
        cases ht : t.isArrow with
        | true =>
          obtain rfl : t.record = r := by simpa [hrecord] using (harrow t rfl ht).symm
          exact .both t hrest
        | false => exact .token ht (.record hr hrest)

/-- The tokens and the records of lines are aligned. -/
theorem aligned_of_ofLines {n : Nat} {ls : List (List Char)} {ts : List Token}
    (h : Token.ofLines n ls = .ok ts) : Aligned ts (lines n ls).2 := by
  induction ls generalizing n ts with
  | nil =>
    obtain rfl : [] = ts := Except.ok.inj h
    exact .nil
  | cons l ls ih =>
    unfold Token.ofLines at h
    cases ho : Token.ofLine n l with
    | error e => simp [ho] at h
    | ok o =>
      cases hu : Token.ofLines (n + 1) ls with
      | error e => simp [ho, hu] at h
      | ok us =>
        obtain rfl : o.toList ++ us = ts := by simpa [ho, hu] using h
        rw [lines_cons]
        exact (ih hu).cons_line ho

theorem aligned_of_read {text : String} {tokens : List Token}
    (h : Token.read text = .ok tokens) : Aligned tokens (records text) :=
  aligned_of_ofLines h

/-- What stands before a response among the tokens is aligned with what stands before it among the
records. -/
theorem Aligned.split {ts us : List Token} {r : Response} {rs : List Record}
    (h : Aligned (ts ++ .response r :: us) rs) :
    ∃ earlier later, rs = earlier ++ .response r.link :: later ∧ Aligned ts earlier := by
  generalize hall : ts ++ Token.response r :: us = all at h
  induction h generalizing ts with
  | nil => simp at hall
  | both t _ ih =>
    cases ts with
    | nil =>
      obtain rfl : .response r = t := (List.cons.inj hall).1
      exact ⟨[], _, rfl, .nil⟩
    | cons t' ts =>
      obtain ⟨rfl, hrest⟩ := List.cons.inj hall
      obtain ⟨earlier, later, rfl, haligned⟩ := ih hrest
      exact ⟨t'.record :: earlier, later, rfl, .both t' haligned⟩
  | token ht _ ih =>
    cases ts with
    | nil =>
      obtain ⟨rfl, -⟩ := List.cons.inj hall
      cases ht
    | cons t' ts =>
      obtain ⟨rfl, hrest⟩ := List.cons.inj hall
      obtain ⟨earlier, later, hrs, haligned⟩ := ih hrest
      exact ⟨earlier, later, hrs, .token ht haligned⟩
  | record hr _ ih =>
    obtain ⟨earlier, later, rfl, haligned⟩ := ih hall
    exact ⟨_ :: earlier, later, rfl, .record hr haligned⟩

end Check

/-! ## The open request -/

namespace Draft

open Check

variable {d : Draft} {waiting : List Link}

/-- A link with the ends of the open request waits. -/
def Waits (d : Draft) (waiting : List Link) : Prop :=
  ∀ i ∈ d.pending, ∃ l ∈ waiting, l.source = i.source ∧ l.target = i.target

/-- A response comes back along the request just if it comes back along a link with its ends. -/
theorem answers_eq_isReverse {i : Interaction} {l : Link} (hs : l.source = i.source)
    (ht : l.target = i.target) (r : Response) : answers r i = isReverse r.link l := by
  rw [Bool.eq_iff_iff, answers, isReverse, hs, ht]
  simp only [Bool.and_eq_true, beq_iff_eq, Response.link]
  exact and_congr eq_comm eq_comm

namespace Waits

/-- A response that the open request waits for finds a link. -/
theorem any_isReverse (h : d.Waits waiting) {i : Interaction} (hi : d.pending = some i)
    {r : Response} (hr : answers r i = true) : waiting.any (isReverse r.link) = true := by
  obtain ⟨l, hl, hs, ht⟩ := h i hi
  rw [answers_eq_isReverse hs ht] at hr
  exact List.any_eq_true.2 ⟨l, hl, hr⟩

/-- A declaration or a note leaves the ends of the open request. -/
theorem step_of_not_isArrow (h : d.Waits waiting) {t : Token} (ht : t.isArrow = false) :
    (d.step t).Waits waiting := by
  cases t with
  | declaration _ => exact h
  | note n =>
    unfold Draft.step addNote
    cases hp : d.pending with
    | none => exact h
    | some i =>
      dsimp only
      split
      · intro j hj
        obtain rfl : enrich i n = j := Option.some_inj.1 hj
        exact h i hp
      · exact h
  | _ => cases ht

/-- Only a response takes away a link that waits. -/
theorem waitingAfter_of_not_isResponse (h : d.Waits waiting) {r : Record}
    (hr : r.isResponse = false) : d.Waits (waitingAfter waiting r) := by
  cases r with
  | request l =>
    intro i hi
    obtain ⟨k, hk, hends⟩ := h i hi
    exact ⟨k, List.mem_cons_of_mem l hk, hends⟩
  | response _ => cases hr
  | _ => exact h

/-- The open request waits after a token and its record. -/
theorem step (h : d.Waits waiting) (t : Token) :
    (d.step t).Waits (waitingAfter waiting t.record) := by
  cases t with
  | declaration _ => exact h
  | note n => exact h.step_of_not_isArrow rfl
  | request r =>
    intro i hi
    obtain rfl : Interaction.ofRequest r = i := Option.some_inj.1 hi
    exact ⟨_, List.mem_cons_self, rfl, rfl⟩
  | response r =>
    unfold Draft.step addResponse
    cases hp : d.pending with
    | none => simp [Waits]
    | some i =>
      dsimp only
      split
      · -- it is answered, and nothing is open
        simp [Waits]
      · -- the response takes a link, but not the one of the open request
        next hstray =>
        intro j hj
        obtain rfl : i = j := by simpa [hp] using hj
        obtain ⟨l, hl, hs, ht⟩ := h i hp
        rw [answers_eq_isReverse hs ht] at hstray
        exact ⟨l, (List.mem_eraseP_of_neg hstray).2 hl, hs, ht⟩

/-- The open request waits after all lines. -/
theorem run {ts : List Token} {rs : List Record} (haligned : Aligned ts rs)
    (h : d.Waits waiting) : (ts.foldl Draft.step d).Waits (rs.foldl waitingAfter waiting) := by
  induction haligned generalizing d waiting with
  | nil => exact h
  | both t _ ih => exact ih (h.step t)
  | token ht _ ih => exact ih (h.step_of_not_isArrow ht)
  | record hr _ ih => exact ih (h.waitingAfter_of_not_isResponse hr)

theorem empty : ({} : Draft).Waits [] := by
  intro i hi
  cases hi

end Waits

/-! ## Orphans -/

/-- A response that is an orphan for the check is a stray for the reader. -/
theorem Waits.strays_step (h : d.Waits waiting) (t : Token) :
    orphanOf waiting t.record = [] ∨
      ∃ r, orphanOf waiting t.record = [r.finding] ∧ (d.step t).strays = d.strays ++ [r] := by
  cases t with
  | response r =>
    cases hany : waiting.any (isReverse r.link) with
    | true => exact .inl (if_pos hany)
    | false =>
      refine .inr ⟨r, if_neg (Bool.not_eq_true _ ▸ hany), ?_⟩
      unfold Draft.step addResponse
      cases hp : d.pending with
      | none => simp [strays, Remark.stray?]
      | some i =>
        have hstray : ¬ answers r i = true := by
          intro hr
          rw [h.any_isReverse hp hr] at hany
          cases hany
        simp [strays, Remark.stray?, if_neg hstray]
  | _ => exact .inl rfl

/-- Strays stay. -/
theorem strays_prefix_step (d : Draft) (t : Token) : d.strays <+: (d.step t).strays :=
  (d.growsTo_step t).remarks.filterMap Remark.stray?

/-- The orphans of the check are among the strays that the tokens add. -/
theorem Waits.orphans {ts : List Token} {rs : List Record} (haligned : Aligned ts rs)
    (h : d.Waits waiting) :
    ∃ added flagged : List Response, (ts.foldl Draft.step d).strays = d.strays ++ added ∧
      flagged.Sublist added ∧ Check.orphans waiting rs = flagged.map Response.finding := by
  induction haligned generalizing d waiting with
  | nil => exact ⟨[], [], (List.append_nil _).symm, List.Sublist.refl [], rfl⟩
  | both t _ ih =>
    obtain ⟨added, flagged, hadded, hsub, hflagged⟩ := ih (h.step t)
    rw [List.foldl_cons, Check.orphans, hadded, hflagged]
    rcases h.strays_step t with hnone | ⟨r, hone, hstrays⟩
    · obtain ⟨first, hfirst⟩ := d.strays_prefix_step t
      refine ⟨first ++ added, flagged, ?_, hsub.trans (List.sublist_append_right ..), ?_⟩
      · rw [← hfirst, List.append_assoc]
      · rw [hnone, List.nil_append]
    · refine ⟨r :: added, r :: flagged, ?_, hsub.cons_cons r, ?_⟩
      · rw [hstrays, List.append_assoc, List.singleton_append]
      · rw [hone, List.singleton_append, List.map_cons]
  | @token t _ _ ht _ ih =>
    obtain ⟨added, flagged, hadded, hsub, hflagged⟩ := ih (h.step_of_not_isArrow ht)
    obtain ⟨first, hfirst⟩ := d.strays_prefix_step t
    refine ⟨first ++ added, flagged, ?_, hsub.trans (List.sublist_append_right ..), hflagged⟩
    rw [List.foldl_cons, hadded, ← hfirst, List.append_assoc]
  | @record r _ _ hr _ ih =>
    obtain ⟨added, flagged, hadded, hsub, hflagged⟩ := ih (h.waitingAfter_of_not_isResponse hr)
    refine ⟨added, flagged, hadded, hsub, ?_⟩
    have hnone : orphanOf waiting r = [] := by
      cases r with
      | response _ => cases hr
      | _ => rfl
    rw [Check.orphans, hnone, List.nil_append, hflagged]

end Draft

/-! ## Texts -/

namespace Check

/-- What the check knows before the first record of a text. -/
def start (text : String) : Context :=
  { declared := (records text).filterMap declaredName? }

/-- What the check knows after records. -/
def Context.after (c : Context) (rs : List Record) : Context :=
  rs.foldl (fun c r => (c.step r).2) c

theorem Context.waiting_after (c : Context) (rs : List Record) :
    (c.after rs).waiting = rs.foldl waitingAfter c.waiting := by
  induction rs generalizing c with
  | nil => rfl
  | cons r rs ih =>
    rw [List.foldl_cons, ← waiting_step]
    exact ih (c.step r).2

end Check

namespace Diagram

open Check

/-- **Orphans.** The responses that the check of a text finds orphaned are, in their order, among
those that its diagram has remarks on, and so each such error is at the line of such a remark. When
a response comes back along the open request of the reader, then a request that it comes back along
waits in the check when it gets to the record of that response. -/
theorem orphans_are_remarks {text : String} {tokens : List Token}
    (h : Token.read text = .ok tokens) :
    (∃ flagged : List Response,
        flagged.Sublist ((ofTokens tokens).remarks.filterMap Remark.stray?) ∧
        (check text).errors.filter Issue.isOrphan = flagged.map fun r => r.finding.issue) ∧
      (∀ x ∈ (check text).errors, x.isOrphan = true →
        ∃ r, .orphan r ∈ (ofTokens tokens).remarks ∧ x.line = some r.line) ∧
      ∀ earlier r later, tokens = earlier ++ .response r :: later →
        ∀ i, (earlier.foldl Draft.step {}).pending = some i → Draft.answers r i = true →
          ∃ before after, records text = before ++ .response r.link :: after ∧
            ((start text).after before).waiting.any (isReverse r.link) = true := by
  have haligned := aligned_of_read h
  obtain ⟨added, flagged, hadded, hsub, hflagged⟩ := Draft.Waits.empty.orphans haligned
  have hstrays : (ofTokens tokens).remarks.filterMap Remark.stray? = added := by
    simpa [ofTokens, Draft.strays] using hadded
  have herrors : (check text).errors.filter Issue.isOrphan =
      flagged.map fun r => r.finding.issue := by
    rw [filter_errors_check, hflagged, List.map_map]
    rfl
  refine ⟨⟨flagged, hstrays ▸ hsub, herrors⟩, ?_, ?_⟩
  · intro x hx horphan
    have hmem : x ∈ (check text).errors.filter Issue.isOrphan :=
      List.mem_filter.2 ⟨hx, horphan⟩
    rw [herrors] at hmem
    obtain ⟨r, hr, rfl⟩ := List.mem_map.1 hmem
    have hstray : r ∈ (ofTokens tokens).remarks.filterMap Remark.stray? :=
      hstrays ▸ hsub.subset hr
    obtain ⟨m, hm, hmr⟩ := List.mem_filterMap.1 hstray
    cases m with
    | orphan r' =>
      obtain rfl : r' = r := Option.some_inj.1 hmr
      exact ⟨r', hm, rfl⟩
    | badBody _ => cases hmr
  · rintro earlier r later rfl i hi hr
    obtain ⟨before, after, hrecords, hbefore⟩ := haligned.split
    refine ⟨before, after, hrecords, ?_⟩
    rw [Context.waiting_after]
    exact (Draft.Waits.empty.run hbefore).any_isReverse hi hr

/-- A reply to a call whose word is no method, after which the response to the open request and a
response of no request come. -/
def callOfNoMethod : String :=
  "A->>B: GET /x\nA->>C: FETCH /y\nC-->>A: 200\nB-->>A: 200\nC-->>A: 404"

theorem orphans_are_remarks_callOfNoMethod :
    ∃ tokens, Token.read callOfNoMethod = .ok tokens ∧
      (∀ x ∈ (check callOfNoMethod).errors, x.isOrphan = true →
        ∃ r, .orphan r ∈ (ofTokens tokens).remarks ∧ x.line = some r.line) ∧
      ∃ before after, records callOfNoMethod = before ++ .response ⟨4, "B", "A"⟩ :: after ∧
        ((start callOfNoMethod).after before).waiting.any (isReverse ⟨4, "B", "A"⟩) = true := by
  have h : Token.read callOfNoMethod =
      .ok [.request ⟨1, "A", "B", .get, "/x", none⟩,
        .response ⟨3, "C", "A", "200", none⟩,
        .response ⟨4, "B", "A", "200", none⟩,
        .response ⟨5, "C", "A", "404", none⟩] := by
    decide +kernel
  obtain ⟨-, herrors, hpaired⟩ := orphans_are_remarks h
  exact ⟨_, h, herrors, hpaired [_, _] ⟨4, "B", "A", "200", none⟩ [_] rfl _ rfl rfl⟩

end Diagram

end SequenceApi
