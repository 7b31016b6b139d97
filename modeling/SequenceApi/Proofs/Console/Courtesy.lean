import SequenceApi.Console.Message
import SequenceApi.Proofs.Console.Balance

/-!
# Courtesies

Between a quiet presentation and one that leaves nothing out, and between a verbose one and one that
is not, most messages differ in nothing but what they put on the standard error. A courtesy, which a
quiet presentation leaves out, can be one that cannot be printed: its text is read as markup where
colour is allowed. The news that a report is valid is a courtesy too, but its text is the program's
own, without brackets and backslashes. In a style it is balanced, and a console that honours
balanced texts can always print it. Of other texts nothing is asked of the console.

## Main definitions

* `Presentation.Alike`: presentations that differ in quietness and verbosity only
* `Message.isCourtesy`: what a quiet presentation leaves out
* `Message.IsSteady`: a message that verbosity cannot break

## Main results

* `Presentation.broken_report`: quietness and verbosity break no report
* `Message.broken_eq_of_not_isCourtesy`: what breaks a message, if it is no courtesy
* `Message.broken_eq_of_quiet`: what breaks a message, for presentations that are equally quiet
-/

namespace SequenceApi

open Text

/-! ## What can always be printed -/

namespace Presentation

variable {p q : Presentation}

theorem broken_note_of_isBalanced (hp : p.reading.Honours) {plain markup : String}
    (h : Markup.IsBalanced [] markup.toList) : (p.note plain markup).broken = none := by
  rw [note]
  split
  · obtain ⟨ds, hds⟩ := hp markup.toList h
    rw [marked, hds]
    rfl
  · rfl

/-- The news of a success can be printed if its text is bare. -/
theorem broken_success (hp : p.reading.Honours) {text : String} (h : Markup.IsBare text.toList) :
    (p.success text).broken = none := by
  rw [success, Shown.broken_onlyIf]
  split
  · apply broken_note_of_isBalanced hp
    have hnone : Markup.IsBare [] := List.forall_mem_nil _
    have hgreen : Markup.IsStyle "green".toList := by simp [Markup.IsStyle]
    have hclosed : Markup.IsBalanced ["green".toList] (text.toList ++ "[/green]".toList) :=
      .closing h hgreen List.mem_cons_self (.bare hnone)
    have hbalanced := Markup.IsBalanced.opening hnone hgreen hclosed
    simpa using hbalanced
  · rfl

/-- A message for those who look for faults can be printed if its text is bare. -/
theorem broken_debug (hp : p.reading.Honours) {text : String} (h : Markup.IsBare text.toList) :
    (p.debug text).broken = none := by
  rw [debug, Shown.broken_onlyIf]
  split
  · apply broken_note_of_isBalanced hp
    have hnone : Markup.IsBare [] := List.forall_mem_nil _
    have hdim : Markup.IsStyle "dim".toList := by simp [Markup.IsStyle]
    have hdebug : Markup.IsStyle "debug".toList := by simp [Markup.IsStyle]
    have hbare : Markup.IsBare (' ' :: text.toList) := List.forall_mem_cons.2 ⟨by decide, h⟩
    -- the mark itself opens a style, which stays open
    have hclosed : Markup.IsBalanced ["debug".toList, "dim".toList]
        ((' ' :: text.toList) ++ "[/dim]".toList) :=
      .closing hbare hdim (by decide) (.bare hnone)
    have hbalanced := Markup.IsBalanced.opening hnone hdim (.opening hnone hdebug hclosed)
    simpa using hbalanced
  · rfl

/-- The last line about a report says nothing but numbers. -/
theorem isBare_summary (r : Report) : Markup.IsBare ("Valid: " ++ r.summary).toList := by
  have hsummary : r.summary = toString r.errors.length ++ " error(s), " ++
      toString r.warnings.length ++ " warning(s)" := rfl
  rw [hsummary, String.toList_append, String.toList_append, String.toList_append,
    String.toList_append]
  have hnumbers := (Markup.isBare_toString r.errors.length).append
    (show Markup.IsBare " error(s), ".toList by simp [Markup.IsBare])
  have hvalid : Markup.IsBare "Valid: ".toList := by simp [Markup.IsBare]
  have hend : Markup.IsBare " warning(s)".toList := by simp [Markup.IsBare]
  exact hvalid.append ((hnumbers.append (Markup.isBare_toString r.warnings.length)).append hend)

/-- Presentations that differ in nothing but quietness and verbosity. -/
structure Alike (p q : Presentation) : Prop where
  format : p.format = q.format
  colour : p.colour = q.colour
  reading : p.reading = q.reading

theorem Alike.honours (h : p.Alike q) (hp : p.reading.Honours) : q.reading.Honours :=
  h.reading ▸ hp

theorem Alike.note_eq (h : p.Alike q) : p.note = q.note := by
  funext plain markup
  rw [note, note, marked, marked, h.colour, h.reading]

/-- Quietness and verbosity break no report. -/
theorem broken_report (h : p.Alike q) (hp : p.reading.Honours) (r : Report) :
    (p.report r).broken = (q.report r).broken := by
  have hsummary : (p.summary r).broken = (q.summary r).broken := by
    rw [summary, summary]
    split
    · have hbare := isBare_summary r
      rw [broken_success hp hbare, broken_success (h.honours hp) hbare]
    · rw [error, error, h.note_eq]
  rw [report, report, h.format]
  split
  · rfl
  · rw [Shown.broken_andThen, Shown.broken_andThen, hsummary]

end Presentation

/-! ## Messages -/

namespace Message

/-- What a quiet presentation leaves out altogether. -/
def isCourtesy : Message → Bool
  | .info _ | .success _ | .suggestion _ => true
  | _ => false

/-- A message that verbosity cannot break: one for those who look for faults has a bare text. -/
def IsSteady (m : Message) : Prop :=
  ∀ text, m = .debug text → Markup.IsBare text.toList

variable {p q : Presentation} {m : Message}

theorem broken_of_isCourtesy (hquiet : p.quiet = true) (hm : m.isCourtesy = true) :
    (m.shown p).broken = none := by
  cases m with
  | info text => simp [shown, Presentation.info, hquiet]
  | success text => simp [shown, Presentation.success, hquiet]
  | suggestion text => simp [shown, Presentation.suggestion, hquiet]
  | _ => cases hm

/-- Quietness and verbosity break no message but courtesies. -/
theorem broken_eq_of_not_isCourtesy (h : p.Alike q) (hp : p.reading.Honours)
    (hsteady : m.IsSteady) (hm : m.isCourtesy = false) :
    (m.shown p).broken = (m.shown q).broken := by
  cases m with
  | data text => rfl
  | document format v => rfl
  | table headers rows => simp only [shown, Presentation.table, h.format]
  | report r => exact Presentation.broken_report h hp r
  | warning text => simp only [shown, Presentation.warning, h.note_eq]
  | error text => simp only [shown, Presentation.error, h.note_eq]
  | debug text =>
    have hbare := hsteady text rfl
    rw [shown, shown, Presentation.broken_debug hp hbare,
      Presentation.broken_debug (h.honours hp) hbare]
  | record e => rw [shown, shown, Presentation.broken_record, Presentation.broken_record]
  | _ => cases hm

/-- What breaks a message is the same for presentations that are equally quiet. -/
theorem broken_eq_of_quiet (h : p.Alike q) (hp : p.reading.Honours) (hquiet : p.quiet = q.quiet)
    (hsteady : m.IsSteady) : (m.shown p).broken = (m.shown q).broken := by
  cases hm : m.isCourtesy with
  | false => exact broken_eq_of_not_isCourtesy h hp hsteady hm
  | true =>
    cases m with
    | info text => simp only [shown, Presentation.info, h.note_eq, hquiet]
    | success text => simp only [shown, Presentation.success, h.note_eq, hquiet]
    | suggestion text => simp only [shown, Presentation.suggestion, h.note_eq, hquiet]
    | _ => cases hm

end Message

end SequenceApi
