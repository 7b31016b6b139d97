import SequenceApi.Proofs.Diagram.Grammar

/-!
# Codes of responses and what follows them

The label of a reply begins with three digits, and the strict check wants a number from 100 to 599.
Neither it nor the reader looks at what comes behind the digits: all of it is the description, also
where no blank stands between them. So a reply that nothing is found about has a code at its front,
but the word there may be longer, and is cut down to its first three digits.

## Main definitions

* `IsReplyLine`: a line with a reply, three digits and a rest

## Main results

* `IsReplyLine.ofLine`, `IsReplyLine.entry`: the response of such a line, and what is found about it
* `Diagram.code_of_unreported`: the front of the label of a response that nothing is found about
-/

namespace SequenceApi

open Text

/-- A line with a reply whose label is at most one blank, three digits, and a rest. -/
structure IsReplyLine (l before between gap code rest : List Char) : Prop where
  arrow : IsArrowLine .reply l before between (gap ++ (code ++ rest))
  isGap : IsGap gap
  isCode : IsCode (String.ofList code)

theorem exists_digits_of_isCode {code : List Char} (h : IsCode (String.ofList code)) :
    ∃ a b c, code = [a, b, c] ∧ isDigit a = true ∧ isDigit b = true ∧ isDigit c = true := by
  obtain ⟨a, b, c, heq, hdigits⟩ := h
  exact ⟨a, b, c, String.ofList_inj.1 heq, hdigits⟩

/-- Whether a line is a comment is seen before its first hyphen. -/
theorem isComment_append_hyphen {before : List Char} (h : before ≠ []) (tail : List Char) :
    isComment (before ++ '-' :: tail) = isComment before := by
  match before with
  | [] => exact absurd rfl h
  | [c] => simp [isComment, List.isPrefixOf]
  | c :: d :: before => simp [isComment, List.isPrefixOf]

namespace IsReplyLine

variable {l before between gap code rest : List Char}

theorem head?_code (h : IsReplyLine l before between gap code rest) :
    ∀ c ∈ (code ++ rest).head?, isBlank c = false := by
  obtain ⟨a, b, c, rfl, ha, -⟩ := exists_digits_of_isCode h.isCode
  simpa using isBlank_of_isDigit ha

theorem read (h : IsReplyLine l before between gap code rest) :
    Arrow.read l = some ⟨.reply, String.ofList (trim before), String.ofList (trim between),
      code ++ rest⟩ := by
  rw [Arrow.read_iff.2 ⟨_, before, between, _, h.arrow, rfl⟩,
    h.isGap.dropOneBlank_append h.head?_code]

theorem readLabel (h : IsReplyLine l before between gap code rest) :
    ReplyLabel.read (code ++ rest) = some ⟨code, remainder? rest⟩ := by
  obtain ⟨a, b, c, rfl, hdigits⟩ := exists_digits_of_isCode h.isCode
  exact ReplyLabel.read_iff.2 ⟨a, b, c, rest, rfl, hdigits, rfl⟩

/-- The line is neither blank nor a comment just if the text before the arrow is no comment. -/
theorem isIdle_eq (h : IsReplyLine l before between gap code rest) :
    (l.isEmpty || isComment l) = isComment before := by
  obtain ⟨⟨rfl, hbefore, -, -, -⟩, -, -⟩ := h
  have hcomment := isComment_append_hyphen hbefore ("->>".toList ++ (between ++ ':' ::
    (gap ++ (code ++ rest))))
  rw [← hcomment, List.isEmpty_eq_false_iff.2 (by simp [hbefore]), Bool.false_or]
  rfl

/-- The response of the line. -/
theorem ofLine (h : IsReplyLine l before between gap code rest) (hidle : isComment before = false)
    (n : Nat) :
    Token.ofLine n l = .ok (some (.response ⟨n, String.ofList (trim before),
      String.ofList (trim between), String.ofList code, remainder? rest⟩)) := by
  rw [Token.ofLine, h.isIdle_eq, hidle, h.read, Option.bind_some, Token.ofArrow?, h.readLabel]
  rfl

/-- What the check finds about the line by itself: that the digits are out of range, if they are. -/
theorem entry (h : IsReplyLine l before between gap code rest) (hidle : isComment before = false)
    (n : Nat) :
    Check.entry n l =
      (if IsInRange (String.ofList code) then [] else [⟨some n, .badStatus (String.ofList code)⟩],
        some (.response ⟨n, String.ofList (trim before), String.ofList (trim between)⟩)) := by
  have hkeyword : ¬ isKeyword "participant" l = true := by
    intro hkeyword
    have hread := h.read
    rw [Arrow.read_of_isKeyword hkeyword] at hread
    cases hread
  rw [Check.entry_of_ink (h.isIdle_eq.trans hidle), Check.line, if_neg hkeyword, h.read,
    Option.bind_some, Check.arrow?, h.readLabel]
  simp [IsInRange]

/-- The word at the front is the three digits just if it ends behind them. -/
theorem word_iff (h : IsReplyLine l before between gap code rest) :
    word (code ++ rest) = code ↔ ∀ c ∈ rest.head?, isBlank c = true := by
  obtain ⟨a, b, c, rfl, ha, hb, hc⟩ := exists_digits_of_isCode h.isCode
  have hink : ∀ d ∈ [a, b, c], isBlank d = false := by
    simp [isBlank_of_isDigit ha, isBlank_of_isDigit hb, isBlank_of_isDigit hc]
  constructor
  · intro hword
    -- what follows a word is blank in front, and here it is the rest
    have hall := word_append_afterWord ([a, b, c] ++ rest)
    rw [hword] at hall
    have hrest : afterWord ([a, b, c] ++ rest) = rest := List.append_cancel_left hall
    rw [← hrest]
    exact head?_afterWord _
  · exact fun hrest => word_append hink rest hrest

/-- The rest can be any other. -/
theorem withRest (h : IsReplyLine l before between gap code rest) (rest' : List Char) :
    IsReplyLine (before ++ (Arrow.Head.reply.text.toList ++ (between ++ ':' ::
      (gap ++ (code ++ rest'))))) before between gap code rest' where
  arrow := { h.arrow with eq_append := rfl }
  isGap := h.isGap
  isCode := h.isCode

end IsReplyLine

/-- The line of a response is a reply with three digits. -/
theorem Token.exists_isReplyLine {n : Nat} {l : List Char} {r : Response}
    (h : ofLine n l = .ok (some (.response r))) :
    ∃ before between gap code rest, IsReplyLine l before between gap code rest ∧
      isComment before = false ∧
      r = ⟨n, String.ofList (trim before), String.ofList (trim between), String.ofList code,
        remainder? rest⟩ := by
  obtain ⟨hink, a, harrow, hread⟩ := exists_arrow_of_ofLine h (.inr ⟨r, rfl⟩)
  obtain ⟨before, between, gap, x, y, z, rest, hline, hgap, hdigits, rfl⟩ :=
    isResponseLine_iff.2 (Option.bind_eq_some_iff.2 ⟨a, harrow, hread⟩)
  have hreply : IsReplyLine l before between gap [x, y, z] rest :=
    ⟨hline, hgap, x, y, z, rfl, hdigits⟩
  exact ⟨before, between, gap, [x, y, z], rest, hreply, hreply.isIdle_eq.symm.trans hink, rfl⟩

namespace Diagram

/-- Digits out of range are reported at their line. -/
theorem isInRange_of_unreported {text : String} {k : Nat}
    {l before between gap code rest : List Char}
    (hk : (trimmedLines text)[k]? = some l) (h : IsReplyLine l before between gap code rest)
    (hidle : isComment before = false) (hclean : ∀ i ∈ (check text).issues, i.line ≠ some (1 + k)) :
    IsInRange (String.ofList code) := by
  by_contra hrange
  have hne : l ≠ [] := by
    rintro rfl
    exact h.arrow.before_ne_nil (List.append_eq_nil_iff.1 h.arrow.eq_append.symm).1
  have hfound : ⟨some (1 + k), .badStatus (String.ofList code)⟩ ∈ (Check.entry (1 + k) l).1 := by
    rw [h.entry hidle, if_neg hrange]
    exact List.mem_cons_self
  obtain ⟨i, hi, hat, -⟩ := hasAt_of_mem_entry hk hne hfound rfl
  exact hclean i hi hat

/-- **Codes.** A response that nothing is found about has at the front of its label, behind at most
one blank, three digits from 100 to 599. The word there is its status if a blank or the end of the
line follows, and only then. But whatever follows, the line gives the same response with another
description, and nothing is found about it by itself. -/
theorem code_of_unreported {text : String} {tokens : List Token}
    (h : Token.read text = .ok tokens) {r : Response} (hr : .response r ∈ tokens)
    (hclean : ∀ i ∈ (check text).issues, i.line ≠ some r.line) :
    ∃ l before between gap code rest, (trimmedLines text)[r.line - 1]? = some l ∧
      IsReplyLine l before between gap code rest ∧
      (r.status = String.ofList code ∧ r.description = remainder? rest) ∧ IsInRange r.status ∧
      (word (code ++ rest) = code ↔ ∀ c ∈ rest.head?, isBlank c = true) ∧
      ∀ rest', ∃ l', IsReplyLine l' before between gap code rest' ∧
        Token.ofLine r.line l' =
          .ok (some (.response { r with description := remainder? rest' })) ∧
        Check.entry r.line l' = ([], some (.response r.link)) := by
  obtain ⟨k, l, hk, hline⟩ := Token.exists_line_of_mem h hr
  obtain ⟨before, between, gap, code, rest, hreply, hidle, rfl⟩ := Token.exists_isReplyLine hline
  have hrange := isInRange_of_unreported hk hreply hidle hclean
  refine ⟨l, before, between, gap, code, rest, ?_, hreply, ⟨rfl, rfl⟩, hrange, ?_, fun rest' => ?_⟩
  · rw [Nat.add_sub_cancel_left]
    exact hk
  · exact hreply.word_iff
  · have hother := hreply.withRest rest'
    refine ⟨_, hother, hother.ofLine hidle _, ?_⟩
    rw [hother.entry hidle, if_pos hrange]
    rfl

/-- A request and a reply to it with some label. -/
def replyText (label : String) : String :=
  "participant A\nparticipant B\nA->>B: GET /x\nB-->>A: " ++ label

/-- The tokens of such a text with some response. -/
def replyTokens (r : Response) : List Token :=
  [.declaration ⟨1, "A"⟩, .declaration ⟨2, "B"⟩, .request ⟨3, "A", "B", .get, "/x", none⟩,
    .response r]

theorem code_of_unreported_ok :
    let r : Response := ⟨4, "B", "A", "200", some "OK"⟩
    Token.read (replyText "200 OK") = .ok (replyTokens r) ∧
      (check (replyText "200 OK")).issues = [] ∧ IsInRange r.status ∧
      ∃ l before between gap code rest, (trimmedLines (replyText "200 OK"))[r.line - 1]? = some l ∧
        IsReplyLine l before between gap code rest ∧
        r.status = String.ofList code ∧ r.description = remainder? rest := by
  intro r
  have hread : Token.read (replyText "200 OK") = .ok (replyTokens r) := by decide +kernel
  have hclean : (check (replyText "200 OK")).issues = [] := by decide +kernel
  obtain ⟨l, before, between, gap, code, rest, hl, hreply, hresponse, hrange, -, -⟩ :=
    code_of_unreported hread (r := r) (by simp [replyTokens]) (by simp [hclean])
  exact ⟨hread, hclean, hrange, l, before, between, gap, code, rest, hl, hreply, hresponse⟩

/-- A longer number is cut down to its first three digits, and nothing is found. -/
theorem code_of_unreported_cutDown :
    let r : Response := ⟨4, "B", "A", "200", some "0 OK"⟩
    Token.read (replyText "2000 OK") = .ok (replyTokens r) ∧
      (check (replyText "2000 OK")).issues = [] ∧
      ¬ ∃ l before between gap code rest,
        (trimmedLines (replyText "2000 OK"))[r.line - 1]? = some l ∧
          IsReplyLine l before between gap code rest ∧ ∀ c ∈ rest.head?, isBlank c = true := by
  intro r
  refine ⟨by decide +kernel, by decide +kernel, ?_⟩
  rintro ⟨l, before, between, gap, code, rest, hl, hreply, hblank⟩
  have hline : (trimmedLines (replyText "2000 OK"))[r.line - 1]? =
      some "B-->>A: 2000 OK".toList := by decide +kernel
  obtain rfl : "B-->>A: 2000 OK".toList = l := Option.some_inj.1 (hline.symm.trans hl)
  have harrow : Arrow.read "B-->>A: 2000 OK".toList =
      some ⟨.reply, "B", "A", "2000 OK".toList⟩ := by decide +kernel
  have hlabel : "2000 OK".toList = code ++ rest :=
    congrArg Arrow.label (Option.some_inj.1 (harrow.symm.trans hreply.read))
  obtain ⟨a, b, c, rfl, -⟩ := exists_digits_of_isCode hreply.isCode
  obtain rfl : "0 OK".toList = rest := by simpa using congrArg (List.drop 3) hlabel
  exact absurd (hblank '0' rfl) (by decide)

end Diagram

end SequenceApi
