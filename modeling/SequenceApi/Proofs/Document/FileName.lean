import Mathlib.Data.List.DropRight
import SequenceApi.Document.Format
import SequenceApi.Proofs.Text.Search
import SequenceApi.Store.Path

/-!
# Names of files

The name of a service's file is a single step of a way, whatever the service is called: it has file
characters alone, and so no separator of any system, and since outer points are cut off from a
service's name, it starts with no point. So it neither leads up nor hides. Its ending is the name of
the format.

## Main definitions

* `DocumentFormat.IsChildName`: the name of a visible file directly in a folder

## Main results

* `DocumentFormat.isFileChar_of_mem_fileName`: the characters of a file name
* `DocumentFormat.isChildName_fileName`: every service has the name of a visible file
-/

namespace SequenceApi.DocumentFormat

open Text

/-- The name of a visible file directly in a folder, with the ending of a format. -/
structure IsChildName (f : DocumentFormat) (name : String) : Prop where
  /-- As a path, the name is one step down. -/
  path : Path.ofText name = ⟨false, [name]⟩
  plain : name ∉ ["", ".", ".."]
  separator : ∀ c ∈ name.toList, c ≠ '/' ∧ c ≠ '\\' ∧ c ≠ '\x00'
  visible : name.toList.head? ≠ some '.'
  ending : ∃ stem, stem ≠ "" ∧ name = stem ++ "." ++ f.name

/-! ## Characters -/

/-- No file character separates names. -/
theorem not_isFileChar_of_separator {c : Char} (h : c ∈ ['/', '\\', '\x00']) :
    isFileChar c = false := by
  simp only [List.mem_cons, List.not_mem_nil, or_false] at h
  rcases h with rfl | rfl | rfl <;> decide +kernel

theorem isFileChar_of_isLower {c : Char} (h : c.isLower = true) : isFileChar c = true := by
  have hrange : (0x61, 0x7A) ∈ alphanumericRanges := .tail _ (.tail _ (.head _))
  have hcode : 0x61 ≤ c.toNat ∧ c.toNat ≤ 0x7A := by
    have hbounds := Bool.and_eq_true_iff.1 h
    exact ⟨of_decide_eq_true hbounds.1, of_decide_eq_true hbounds.2⟩
  have hletter : isAlphanumeric c = true :=
    List.any_eq_true.2 ⟨_, hrange, by simpa using hcode⟩
  rw [isFileChar, isWord, hletter]
  simp

theorem isFileChar_of_mem_fallback {c : Char} (h : c ∈ "service".toList) : isFileChar c = true :=
  isFileChar_of_isLower (List.all_eq_true.1 (by decide : "service".toList.all Char.isLower = true) c h)

theorem isFileChar_of_mem_ending (f : DocumentFormat) {c : Char} (h : c ∈ ("." ++ f.name).toList) :
    isFileChar c = true := by
  have hname : f.name.toList.all Char.isLower = true := by cases f <;> decide
  rw [String.toList_append, List.mem_append] at h
  rcases h with h | h
  · obtain rfl : c = '.' := by simpa using h
    simp [isFileChar]
  · exact isFileChar_of_isLower (List.all_eq_true.1 hname c h)

theorem isFileChar_of_mem_plainName {cs : List Char} :
    ∀ {inRun : Bool} {c : Char}, c ∈ plainName inRun cs → isFileChar c = true := by
  induction cs with
  | nil =>
    intro inRun c hc
    cases hc
  | cons d cs ih =>
    intro inRun c hc
    rw [plainName] at hc
    split at hc
    · next hd =>
      rcases List.mem_cons.1 hc with rfl | hc
      · exact hd
      · exact ih hc
    · split at hc
      · exact ih hc
      · rcases List.mem_cons.1 hc with rfl | hc
        · decide
        · exact ih hc

/-- What is left between outer characters begins a text that begins with no outer character. -/
theorem bareName_isPrefix_dropWhile (cs : List Char) : bareName cs <+: cs.dropWhile isOuter :=
  List.rdropWhile_prefix isOuter (cs.dropWhile isOuter)

theorem head?_bareName {cs : List Char} {c : Char} (h : (bareName cs).head? = some c) :
    isOuter c = false := by
  obtain ⟨rest, hrest⟩ := bareName_isPrefix_dropWhile cs
  have hhead : (cs.dropWhile isOuter).head? = some c := by
    rw [← hrest, List.head?_append, h]
    rfl
  have hdrop := List.head?_dropWhile_not isOuter cs
  rw [hhead] at hdrop
  exact hdrop

section

variable (service : String)

theorem stem_ne_empty : stem service ≠ "" := by
  rw [stem]
  split
  · decide
  · next h =>
    intro heq
    rw [String.ofList_eq_empty_iff] at heq
    rw [heq] at h
    exact h rfl

/-- A stem has file characters alone, and starts with no outer one. -/
theorem isFileChar_of_mem_stem {c : Char} (hc : c ∈ (stem service).toList) :
    isFileChar c = true := by
  rw [stem] at hc
  split at hc
  · exact isFileChar_of_mem_fallback hc
  · rw [String.toList_ofList] at hc
    exact isFileChar_of_mem_plainName
      ((List.dropWhile_sublist _).subset ((bareName_isPrefix_dropWhile _).subset hc))

theorem isOuter_head?_stem {c : Char} (hc : (stem service).toList.head? = some c) :
    isOuter c = false := by
  rw [stem] at hc
  split at hc
  · obtain rfl := Option.some_inj.1 hc
    rfl
  · rw [String.toList_ofList] at hc
    exact head?_bareName hc

variable (f : DocumentFormat)

theorem fileName_eq : f.fileName service = stem service ++ "." ++ f.name := rfl

theorem isFileChar_of_mem_fileName {c : Char} (hc : c ∈ (f.fileName service).toList) :
    isFileChar c = true := by
  rw [fileName_eq, String.append_assoc, String.toList_append, List.mem_append] at hc
  rcases hc with hc | hc
  · exact isFileChar_of_mem_stem service hc
  · exact f.isFileChar_of_mem_ending hc

theorem head?_fileName : (f.fileName service).toList.head? = (stem service).toList.head? := by
  have hne : (stem service).toList ≠ [] := by
    simpa using stem_ne_empty service
  rw [fileName_eq, String.append_assoc, String.toList_append, List.head?_append_of_ne_nil _ hne]

/-- Every service has the name of a visible file. -/
theorem isChildName_fileName : f.IsChildName (f.fileName service) := by
  have hchar {c d : Char} (hd : d ∈ ['/', '\\', '\x00']) (hc : c ∈ (f.fileName service).toList) :
      c ≠ d := by
    rintro rfl
    have hfile := not_isFileChar_of_separator hd
    rw [isFileChar_of_mem_fileName service f hc] at hfile
    cases hfile
  have hvisible : (f.fileName service).toList.head? ≠ some '.' := by
    intro hhead
    rw [head?_fileName] at hhead
    exact absurd (isOuter_head?_stem service hhead) (by decide)
  have hslash : '/' ∉ (f.fileName service).toList := fun hc => hchar (by simp) hc rfl
  have hname : (f.fileName service).toList ≠ [] := by
    rw [fileName_eq]
    simp
  refine ⟨?_, ?_, ?_, hvisible, stem service, stem_ne_empty service, rfl⟩
  · -- without a separator the name is one piece, and it is no idle one
    have hidle : Path.isIdle (f.fileName service).toList = false := by
      rw [Path.isIdle, Bool.or_eq_false_iff, beq_eq_false_iff_ne, beq_eq_false_iff_ne]
      refine ⟨hname, fun hpoint => ?_⟩
      rw [hpoint] at hvisible
      exact hvisible rfl
    have hhead : ((f.fileName service).toList.head? == some '/') = false := by
      rw [beq_eq_false_iff_ne]
      exact fun hhead => hslash (List.mem_of_head? hhead)
    rw [Path.ofText, pieces_of_not_mem hslash, hhead, List.filter_cons_of_pos (by simp [hidle])]
    simp
  · intro hplain
    simp only [List.mem_cons, List.not_mem_nil, or_false] at hplain
    rcases hplain with hempty | hpoint | hup
    · exact hname (by rw [hempty, String.toList_empty])
    · exact hvisible (by rw [hpoint]; rfl)
    · exact hvisible (by rw [hup]; rfl)
  · intro c hc
    exact ⟨hchar (by simp) hc, hchar (by simp) hc, hchar (by simp) hc⟩

end

end SequenceApi.DocumentFormat
