import TypeTest.Proofs.LinePositions
import TypeTest.Proofs.Parsing.FaultPlaces
import TypeTest.Proofs.Parsing.JoinedTokens

/-!
# A text below another

A text whose tokens can be read is complete: no string, template or comment is open where it
ends, but for a line comment, which the line break closes. So a second text that starts on the
line below is read as if it stood alone. If its tokens can be read, they follow those of the
first one, at offsets that are greater by what stands before it. And if they cannot, reading
stops at the same place for the same reason; the fault is then reported further down, by the
lines of the first text, but in the same column, since the second text starts a line.
-/

namespace TypeTest

variable {cs more : List Char} {offset : Nat} {ts : List Token} {fault : ScanFault}

/-! ## Faults -/

/-- **A text is refused on the line below another** for the same fault, at the same rest. -/
theorem Refused.append_line (h : tokensFrom offset cs = .ok ts) (hmore : Refused more fault) :
    Refused (cs ++ '\n' :: more) fault := by
  fun_induction tokensFrom offset cs generalizing ts with
  | case1 => cases h
  | case2 offset cs hnil =>
    exact hmore.of_skipTrivia_eq ((skipTrivia_append_line hnil more).trans (if_pos rfl))
  | case3 => cases h
  | case4 => cases h
  | case5 offset cs c body hcons kind rest hk trivia text token others hm =>
    rename_i ih
    have hskip : skipTrivia (cs ++ '\n' :: more) = .ok (c :: (body ++ '\n' :: more)) :=
      skipTrivia_append_line hcons more
    exact .behind hskip (scanToken_append hk (kind.endsBefore_lineBreak more)) (ih hm)

/-! ## Positions -/

/-- **The position so many lines further down.** -/
def LineColumn.lower (count : Nat) (p : LineColumn) : LineColumn := ⟨p.line + count, p.column⟩

/-- Behind a line break the position is on a line further down, in the same column. -/
theorem LineColumn.after_append_break (before rest : List Char) :
    after (before ++ '\n' :: rest) = (after rest).lower (before.count '\n' + 1) := by
  obtain ⟨earlier, lead, rfl, hearlier, hlead⟩ := exists_endsLine_append rest
  have hends : EndsLine (before ++ '\n' :: earlier) := by
    rcases hearlier with rfl | ⟨early, rfl⟩
    · exact .inr ⟨before, rfl⟩
    · refine .inr ⟨before ++ '\n' :: early, ?_⟩
      rw [List.append_assoc]
      rfl
  have hjoined := after_append hends hlead
  rw [List.append_assoc, List.cons_append, List.count_append, List.count_cons_self] at hjoined
  rw [hjoined, after_append hearlier hlead, lower]
  dsimp only
  congr 1
  omega

/-- **The position of a fault**, found from the index of the lines of its text. -/
def SyntaxFault.position (fault : SyntaxFault) (text : String) : LineColumn :=
  (LineIndex.ofText text.toList).lineColumn text.toList fault.offset

/-- The error of a fault shows its position. -/
theorem ScriptError.ofFault_eq (file : Option String) (text : String) (fault : SyntaxFault) :
    ofFault file text fault = .malformed fault.cause file (fault.position text) := by
  rw [ofFault, SyntaxFault.position, LineIndex.lineColumn_ofText]

/-- The position of a fault in the second text. -/
theorem SyntaxFault.position_stacked (a b : String) (fault : SyntaxFault) :
    position ⟨fault.cause, stackedStart a + fault.offset⟩ (stacked a b)
      = (fault.position b).lower (a.toList.count '\n' + 1) := by
  have hlength : byteLength (a.toList ++ ['\n']) = stackedStart a := byteLength_append _ _
  have hle : byteLength (a.toList ++ ['\n']) ≤ stackedStart a + fault.offset :=
    hlength ▸ Nat.le_add_right _ _
  rw [position, position, LineIndex.lineColumn_ofText, LineIndex.lineColumn_ofText,
    LineColumn.ofOffset, toList_stacked, List.append_cons, takeBytes_append_of_le hle, hlength,
    Nat.add_sub_cancel_left, ← List.append_cons, LineColumn.after_append_break,
    LineColumn.ofOffset]

/-! ## Tokens and faults -/

/-- **The fault of stacked texts**, of which the second is refused. -/
theorem tokenize_stacked_error {a b : String} {f : SyntaxFault}
    (ha : tokenize a = .ok ts) (hb : tokenize b = .error f) :
    tokenize (stacked a b) = .error ⟨f.cause, stackedStart a + f.offset⟩ := by
  obtain ⟨fault, hrefused, rfl⟩ := tokenize_eq_error_iff.mp hb
  have hbelow := hrefused.append_line (tokenize_eq_ok.mp ha)
  rw [← toList_stacked] at hbelow
  refine tokenize_eq_error_iff.mpr ⟨fault, hbelow, ?_⟩
  obtain ⟨before, hbefore⟩ := hrefused.suffix
  have hlength : byteLength b.toList = byteLength before + byteLength fault.rest := by
    rw [← hbefore, byteLength_append]
  have hstacked : byteLength (stacked a b).toList = stackedStart a + byteLength b.toList := by
    rw [toList_stacked, List.append_cons, byteLength_append, byteLength_append]
    rfl
  unfold ScanFault.locate
  rw [hstacked, hlength, ← Nat.add_assoc, Nat.add_sub_cancel, Nat.add_sub_cancel]

/-- **The tokens of a text are read the same below another** whose tokens can be read. Those of
the first text come first, without its end token. If the tokens of the second can be read, they
follow, at offsets that are greater by the length of the first text and the line break. And if
they cannot, the fault has the same cause, in the same column, as many lines further down as the
first text has line breaks, and one. -/
theorem tokenize_below {a : String} (ha : tokenize a = .ok ts) (b : String) :
    ∃ init e, ts = init ++ [e] ∧ e.isEnd = true ∧ (∀ t ∈ init, t.isEnd = false)
      ∧ (∀ us, tokenize b = .ok us →
          tokenize (stacked a b) = .ok (init
            ++ Token.behind (e.trivia ++ "\n") (us.map (Token.shift (stackedStart a)))))
      ∧ ∀ fault, tokenize b = .error fault →
          ∃ lowered, tokenize (stacked a b) = .error lowered
            ∧ lowered.position (stacked a b)
              = (fault.position b).lower (a.toList.count '\n' + 1)
            ∧ ∀ file, ScriptError.ofFault file (stacked a b) lowered
              = .malformed fault.cause file
                  ((fault.position b).lower (a.toList.count '\n' + 1)) := by
  obtain ⟨init, e, rfl, he, hinit⟩ := (inOrder_tokenize ha).last
  refine ⟨init, e, rfl, he, hinit, fun us hb => ?_, fun fault hb => ?_⟩
  · obtain ⟨init', e', heq, -, hjoined⟩ := exists_tokenize_stacked ha hb
    obtain ⟨rfl, hend⟩ := List.append_inj' heq rfl
    rw [(List.cons.inj hend).1]
    exact hjoined
  · have hposition := fault.position_stacked a b
    refine ⟨_, tokenize_stacked_error ha hb, hposition, fun file => ?_⟩
    rw [ScriptError.ofFault_eq, hposition]

/-- Below a template and a quote in a comment, a name is read and a quote is not. -/
theorem tokenize_below_comment :
    (∃ init, tokenize "`$\x7ba\x7d` // '\nb" = .ok (init ++ [⟨.identifier, " // '\n", "b", 12⟩,
        ⟨.endOfText, "", "", 13⟩]))
      ∧ ∃ fault, tokenize "`$\x7ba\x7d` // '\n\n '" = .error fault
        ∧ ScriptError.ofFault none "`$\x7ba\x7d` // '\n\n '" fault
          = .malformed .unterminatedString none ⟨2, 1⟩ := by
  have ha : tokenize "`$\x7ba\x7d` // '"
      = .ok [⟨.template "$\x7ba\x7d" true, "", "`$\x7ba\x7d`", 0⟩,
          ⟨.endOfText, " // '", "", 11⟩] := by
    decide +kernel
  have hb : tokenize "b" = .ok [⟨.identifier, "", "b", 0⟩, ⟨.endOfText, "", "", 1⟩] := by
    decide +kernel
  have hquote : tokenize "\n '" = .error ⟨.unterminatedString, 2⟩ := by
    decide +kernel
  obtain ⟨init, e, hinit, -, -, hread, -⟩ := tokenize_below ha "b"
  obtain ⟨-, hend⟩ := List.append_inj' (show [_] ++ [_] = init ++ [e] from hinit) rfl
  obtain ⟨-, -, -, -, -, -, hrefused⟩ := tokenize_below ha "\n '"
  obtain ⟨fault, hfault, -, hposition⟩ := hrefused _ hquote
  refine ⟨⟨init, ?_⟩, fault, hfault, (hposition none).trans ?_⟩
  · rw [← (List.cons.inj hend).1] at hread
    exact hread _ hb
  · decide +kernel

end TypeTest
