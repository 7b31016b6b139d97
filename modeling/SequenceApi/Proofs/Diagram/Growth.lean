import SequenceApi.Proofs.Diagram.Orphan
import SequenceApi.Proofs.Diagram.Pairing

/-!
# Diagrams grow at their end

More lines after a text leave what has been read of it. Tokens and records of the lines before stay,
and so do remarks, settled interactions and orphaned responses. Only the request that is still open
at the end can be added to: it may get its response, and its notes.

## Main definitions

* `Interaction.Grows`: the same request, with more security
* `Draft.GrowsTo`: a draft and what more tokens may make of it

## Main results

* `Draft.growsTo_step`, `Draft.growsTo_foldl_step`: one token more, and a run of tokens
* `trimmedLines_joined_append`, `Token.prefix_of_read`: the lines and tokens of a longer text
* `Check.orphans_of_more_lines`: the orphaned responses of a longer text
* `Diagram.keeps_history`: what stays when lines are added
-/

namespace SequenceApi

open Text

/-! ## Drafts -/

/-- The same request, and all security that there was. -/
structure Interaction.Grows (i j : Interaction) : Prop where
  origin : j.origin = i.origin
  security : i.security <+: j.security

namespace Interaction.Grows

variable {i j k : Interaction}

theorem refl (i : Interaction) : i.Grows i :=
  ⟨rfl, List.prefix_rfl⟩

theorem trans (h : i.Grows j) (h' : j.Grows k) : i.Grows k :=
  ⟨h'.origin.trans h.origin, h.security.trans h'.security⟩

theorem enrich (i : Interaction) (n : Note) : i.Grows (Draft.enrich i n) :=
  ⟨rfl, List.prefix_append ..⟩

end Interaction.Grows

namespace Draft

/-- What more tokens may make of a draft: what is settled and remarked stays, and the open request
grows at its place. -/
structure GrowsTo (d e : Draft) : Prop where
  settled : d.settled <+: e.settled
  remarks : d.remarks <+: e.remarks
  pending : ∀ i ∈ d.pending, ∃ j, i.Grows j ∧ d.settled ++ [j] <+: e.interactions

theorem settled_prefix_interactions (d : Draft) : d.settled <+: d.interactions :=
  List.prefix_append ..

namespace GrowsTo

variable {d e f : Draft}

theorem refl (d : Draft) : d.GrowsTo d where
  settled := List.prefix_rfl
  remarks := List.prefix_rfl
  pending i hi := ⟨i, .refl i, by simp [interactions, Option.mem_def.1 hi]⟩

theorem trans (h : d.GrowsTo e) (h' : e.GrowsTo f) : d.GrowsTo f where
  settled := h.settled.trans h'.settled
  remarks := h.remarks.trans h'.remarks
  pending i hi := by
    obtain ⟨j, hij, hj⟩ := h.pending i hi
    -- the request is settled in the middle, or is still the open one there
    cases hp : e.pending with
    | none =>
      rw [interactions, hp, Option.toList_none, List.append_nil] at hj
      exact ⟨j, hij, hj.trans (h'.settled.trans f.settled_prefix_interactions)⟩
    | some i' =>
      rw [interactions, hp, Option.toList_some, List.prefix_concat_iff] at hj
      rcases hj with hj | hj
      · obtain ⟨hsettled, hlast⟩ := List.append_inj' hj rfl
        obtain rfl : j = i' := by simpa using hlast
        obtain ⟨k, hjk, hk⟩ := h'.pending j hp
        exact ⟨k, hij.trans hjk, hsettled ▸ hk⟩
      · exact ⟨j, hij, hj.trans (h'.settled.trans f.settled_prefix_interactions)⟩

end GrowsTo

/-- One token more. -/
theorem growsTo_step (d : Draft) (t : Token) : d.GrowsTo (d.step t) := by
  cases t with
  | declaration _ => exact .refl d
  | request r =>
    refine ⟨d.settled_prefix_interactions, List.prefix_rfl, fun i hi => ⟨i, .refl i, ?_⟩⟩
    simp [step, addRequest, interactions, Option.mem_def.1 hi]
  | response r =>
    simp only [step, addResponse]
    cases hp : d.pending with
    | none => exact ⟨List.prefix_rfl, List.prefix_append .., by simp [hp]⟩
    | some i =>
      dsimp only
      split
      · -- the open request is settled with its answer
        refine ⟨List.prefix_append .., List.prefix_rfl, fun i' hi' => ?_⟩
        obtain rfl : i = i' := by simpa [hp] using hi'
        exact ⟨{ i with answer := some ⟨r.status, r.description⟩ }, ⟨rfl, List.prefix_rfl⟩,
          by simp [interactions]⟩
      · -- an orphan leaves it open
        refine ⟨List.prefix_rfl, List.prefix_append .., fun i' hi' => ?_⟩
        obtain rfl : i = i' := by simpa [hp] using hi'
        exact ⟨i, .refl i, by simp [interactions]⟩
  | note n =>
    simp only [step, addNote]
    cases hp : d.pending with
    | none => exact .refl d
    | some i =>
      dsimp only
      split
      · refine ⟨List.prefix_rfl, List.prefix_append .., fun i' hi' => ?_⟩
        obtain rfl : i = i' := by simpa [hp] using hi'
        exact ⟨enrich i n, .enrich i n, by simp [interactions]⟩
      · exact .refl d

/-- A run of tokens. -/
theorem growsTo_foldl_step (ts : List Token) (d : Draft) : d.GrowsTo (ts.foldl step d) := by
  induction ts generalizing d with
  | nil => exact .refl d
  | cons t ts ih => exact (d.growsTo_step t).trans (ih (d.step t))

/-- What is answered is settled. -/
theorem isOpen_foldl_step (ts : List Token) {d : Draft} (h : d.IsOpen) :
    (ts.foldl step d).IsOpen := by
  induction ts generalizing d with
  | nil => exact h
  | cons t ts ih => exact ih (h.step t)

/-- Every interaction of a draft stays, unless it is the last one and open: that one grows. -/
theorem GrowsTo.interaction {d e : Draft} (h : d.GrowsTo e) (hd : d.IsOpen) {k : Nat}
    {i : Interaction} (hk : d.interactions[k]? = some i) :
    ∃ j, e.interactions[k]? = some j ∧ i.Grows j ∧
      (k + 1 < d.interactions.length → j = i) ∧ (i.answer.isSome → j = i) := by
  rcases Nat.lt_or_ge k d.settled.length with hlt | hge
  · -- settled, so that it stays
    obtain ⟨rest, hrest⟩ := h.settled.trans e.settled_prefix_interactions
    rw [interactions, List.getElem?_append_left hlt] at hk
    refine ⟨i, ?_, .refl i, fun _ => rfl, fun _ => rfl⟩
    rw [← hrest, List.getElem?_append_left hlt, hk]
  · -- the last one, which waits for its answer
    rw [interactions, List.getElem?_append_right hge] at hk
    cases hp : d.pending with
    | none => simp [hp] at hk
    | some i' =>
      obtain ⟨hlast, rfl⟩ : k - d.settled.length = 0 ∧ i' = i := by
        rw [hp, Option.toList_some, List.getElem?_singleton] at hk
        split at hk
        · next h0 => exact ⟨h0, Option.some_inj.1 hk⟩
        · cases hk
      obtain rfl : k = d.settled.length := Nat.le_antisymm (Nat.le_of_sub_eq_zero hlast) hge
      obtain ⟨j, hij, rest, hrest⟩ := h.pending i' hp
      refine ⟨j, ?_, hij, fun hlt => ?_, fun ha => ?_⟩
      · rw [← hrest, List.append_assoc, List.getElem?_append_right hge, Nat.sub_self]
        rfl
      · simp [interactions, hp] at hlt
      · simp [hd i' hp] at ha

end Draft

/-! ## Lines -/

theorem trimmedLines_joined_append {ls ms : List String} (hls : ls ≠ []) (hms : ms ≠ []) :
    trimmedLines (joined "\n" (ls ++ ms)) =
      trimmedLines (joined "\n" ls) ++ trimmedLines (joined "\n" ms) := by
  rw [trimmedLines, joined, String.intercalate_append_of_ne_nil hls hms, String.toList_append,
    String.toList_append, List.append_assoc, show "\n".toList = ['\n'] from rfl,
    List.singleton_append, pieces_append, List.map_append]
  rfl

/-- There are as many lines as were put together. -/
theorem length_trimmedLines_joined {ls : List String} (h : ls ≠ [])
    (hls : ∀ l ∈ ls, '\n' ∉ l.toList) : (trimmedLines (joined "\n" ls)).length = ls.length := by
  induction ls with
  | nil => exact absurd rfl h
  | cons l ls ih =>
    obtain ⟨hl, hls⟩ := List.forall_mem_cons.1 hls
    have hone : (trimmedLines l).length = 1 := by
      rw [trimmedLines, List.length_map, length_pieces, List.count_eq_zero_of_not_mem hl]
    -- a line feed stands between two lines, but not after a single one
    cases ls with
    | nil => simpa [joined] using hone
    | cons m ls =>
      rw [← List.singleton_append, trimmedLines_joined_append (by simp) (by simp),
        List.length_append, ih (by simp) hls, List.length_append, joined,
        String.intercalate_singleton, hone, List.length_singleton]

section Numbered

variable {α β : Type} (f : Nat → β → Option α)

theorem onLines_append (n : Nat) (ls ms : List β) :
    onLines f n (ls ++ ms) = onLines f n ls ++ onLines f (n + ls.length) ms := by
  rw [onLines, List.zipIdx_append, List.filterMap_append]
  rfl

theorem lt_of_mem_onLines {f : Nat → β → Option α} {lineOf : α → Nat}
    (hf : ∀ n l a, f n l = some a → lineOf a = n) {n : Nat} {ls : List β} :
    ∀ a ∈ onLines f n ls, lineOf a < n + ls.length := by
  intro a ha
  obtain ⟨⟨l, i⟩, hi, hfi⟩ := List.mem_filterMap.1 ha
  rw [hf i l a hfi]
  exact (List.mem_zipIdx hi).2.1

end Numbered

/-- The tokens of lines are the first of those of more lines. -/
theorem Token.prefix_of_read {ls ms : List String} {ts us : List Token}
    (hts : read (joined "\n" ls) = .ok ts) (hus : read (joined "\n" (ls ++ ms)) = .ok us) :
    ts <+: us := by
  rcases eq_or_ne ls [] with rfl | hls
  · -- no lines are one blank line
    obtain rfl : [] = ts := Except.ok.inj hts
    exact List.nil_prefix
  · rcases eq_or_ne ms [] with rfl | hms
    · rw [List.append_nil] at hus
      obtain rfl : ts = us := Except.ok.inj (hts.symm.trans hus)
      exact List.prefix_rfl
    · obtain ⟨-, rfl⟩ := of_ofLines_eq_ok hts
      obtain ⟨-, rfl⟩ := of_ofLines_eq_ok hus
      rw [trimmedLines_joined_append hls hms, onLines_append]
      exact List.prefix_append ..

/-! ## Orphaned responses -/

namespace Check

/-- The records of a text have the numbers of its lines. -/
theorem line_of_mem_records {text : String} {r : Record} (h : r ∈ records text) :
    r.line ≤ (trimmedLines text).length := by
  rw [records, snd_lines] at h
  have := lt_of_mem_onLines line_of_entry r h
  omega

/-- The records of lines are the first of those of more lines, and the others are of the lines after
them. -/
theorem exists_records_append {ls : List String} (hls : ∀ l ∈ ls, '\n' ∉ l.toList)
    (ms : List String) :
    ∃ rs, records (joined "\n" (ls ++ ms)) = records (joined "\n" ls) ++ rs ∧
      (∀ r ∈ records (joined "\n" ls), r.line ≤ ls.length) ∧ ∀ r ∈ rs, ls.length < r.line := by
  rcases eq_or_ne ls [] with rfl | hne
  · refine ⟨records (joined "\n" ms), rfl, fun r hr => ?_, fun r hr => ?_⟩
    · cases hr
    · rw [records, snd_lines] at hr
      exact le_of_mem_onLines line_of_entry r hr
  · have hlength := length_trimmedLines_joined hne hls
    have hold : ∀ r ∈ records (joined "\n" ls), r.line ≤ ls.length :=
      fun r hr => hlength ▸ line_of_mem_records hr
    rcases eq_or_ne ms [] with rfl | hms
    · exact ⟨[], by simp, hold, by simp⟩
    · refine ⟨onLines (fun n l => (entry n l).2) (1 + ls.length) (trimmedLines (joined "\n" ms)), ?_,
        hold, fun r hr => ?_⟩
      · rw [records, records, snd_lines, snd_lines, trimmedLines_joined_append hne hms,
          onLines_append, hlength]
      · have := le_of_mem_onLines line_of_entry r hr
        omega

/-- More lines bring no orphans to the lines before, and take none away. -/
theorem orphans_of_more_lines {ls ms : List String} (hls : ∀ l ∈ ls, '\n' ∉ l.toList) :
    (orphans [] (records (joined "\n" (ls ++ ms)))).filter (fun f => f.line.any (· ≤ ls.length)) =
      orphans [] (records (joined "\n" ls)) := by
  obtain ⟨rs, happend, hold, hnew⟩ := exists_records_append hls ms
  rw [happend, orphans_append, List.filter_append]
  -- those of the lines before have small numbers, and those of the lines after have not
  have hfirst : (orphans [] (records (joined "\n" ls))).filter
      (fun f => f.line.any (· ≤ ls.length)) = orphans [] (records (joined "\n" ls)) := by
    refine List.filter_eq_self.2 fun f hf => ?_
    obtain ⟨r, hr, hline⟩ := exists_record_of_mem_orphans hf
    simp [hline, hold r hr]
  rw [hfirst, List.filter_eq_nil_iff.2 fun f hf => ?_, List.append_nil]
  obtain ⟨r, hr, hline⟩ := exists_record_of_mem_orphans hf
  simp [hline, hnew r hr]

end Check

/-! ## Diagrams -/

namespace Diagram

/-- **History.** Lines that are added to a text leave what was read of it. The remarks stay in front
and those who take part still do. Every interaction stays at its place: as it is, if another follows
it or if it has its answer, and else with its request and with the security that it has. The
orphaned responses that the check finds stay, and it finds no other at the lines that were there. -/
theorem keeps_history {ls ms : List String} (hls : ∀ l ∈ ls, '\n' ∉ l.toList) {d e : Diagram}
    (hd : read (joined "\n" ls) = .ok d) (he : read (joined "\n" (ls ++ ms)) = .ok e) :
    d.remarks <+: e.remarks ∧ d.participants ⊆ e.participants ∧
      (∀ (k : Nat) (i : Interaction), d.interactions[k]? = some i →
        ∃ j, e.interactions[k]? = some j ∧ j.origin = i.origin ∧ i.security <+: j.security ∧
          (k + 1 < d.interactions.length → j = i) ∧ (i.answer.isSome → j = i)) ∧
      (check (joined "\n" ls)).errors.filter Issue.isOrphan =
        ((check (joined "\n" (ls ++ ms))).errors.filter Issue.isOrphan).filter
          fun x => x.line.any (· ≤ ls.length) := by
  obtain ⟨ts, hts, rfl⟩ := exists_tokens hd
  obtain ⟨us, hus, rfl⟩ := exists_tokens he
  obtain ⟨vs, rfl⟩ := Token.prefix_of_read hts hus
  -- the tokens that come in addition are a run from the draft of the tokens before
  have hgrows := Draft.growsTo_foldl_step vs (ts.foldl Draft.step {})
  rw [← List.foldl_append] at hgrows
  have hopen := Draft.isOpen_foldl_step ts (d := {}) (by simp [Draft.IsOpen])
  refine ⟨hgrows.remarks, ?_, fun k i hk => ?_, ?_⟩
  · intro name hname
    simp only [ofTokens, List.mem_eraseDups, List.flatMap_append, List.mem_append] at hname ⊢
    exact .inl hname
  · obtain ⟨j, hj, hgrows, hinner, hanswered⟩ := hgrows.interaction hopen hk
    exact ⟨j, hj, hgrows.origin, hgrows.security, hinner, hanswered⟩
  · rw [filter_errors_check, filter_errors_check, List.filter_map]
    exact congrArg _ (Check.orphans_of_more_lines hls).symm

/-- Lines after which a request is open. -/
def openLines : List String :=
  ["Shop-->>App: 200", "App->>Shop: POST /carts"]

/-- Lines that go on with the open request, after a response from elsewhere. -/
def nextLines : List String :=
  ["Shop-->>Web: 500", "Note over Shop: Security: basicAuth", "Shop-->>App: 201"]

theorem keeps_history_of_open :
    (∀ l ∈ openLines, '\n' ∉ l.toList) ∧
      ∃ d e : Diagram, read (joined "\n" openLines) = .ok d ∧
        read (joined "\n" (openLines ++ nextLines)) = .ok e ∧ d.remarks <+: e.remarks ∧
        (check (joined "\n" openLines)).errors.filter Issue.isOrphan =
          ((check (joined "\n" (openLines ++ nextLines))).errors.filter Issue.isOrphan).filter
            fun x => x.line.any (· ≤ openLines.length) := by
  have hls : ∀ l ∈ openLines, '\n' ∉ l.toList := by decide
  have hts : Token.read (joined "\n" openLines) =
      .ok [.response ⟨1, "Shop", "App", "200", none⟩,
        .request ⟨2, "App", "Shop", .post, "/carts", none⟩] := by
    decide +kernel
  have hus : Token.read (joined "\n" (openLines ++ nextLines)) =
      .ok [.response ⟨1, "Shop", "App", "200", none⟩,
        .request ⟨2, "App", "Shop", .post, "/carts", none⟩,
        .response ⟨3, "Shop", "Web", "500", none⟩,
        .note ⟨4, ["Shop"], "Security: basicAuth"⟩,
        .response ⟨5, "Shop", "App", "201", none⟩] := by
    decide +kernel
  have hd := congrArg (Except.map ofTokens) hts
  have he := congrArg (Except.map ofTokens) hus
  obtain ⟨hremarks, -, -, horphans⟩ := keeps_history hls hd he
  exact ⟨hls, _, _, hd, he, hremarks, horphans⟩

end Diagram

end SequenceApi

