import Mathlib.Algebra.Group.Nat.Defs
import TypeTest.Proofs.LinePositions
import TypeTest.Proofs.Parsing.FaultPlaces
import TypeTest.Proofs.Parsing.ParserFaults
import TypeTest.Proofs.Parsing.TokenRuns
import TypeTest.Proofs.Printing.Lexemes
import TypeTest.Script.File
import TypeTest.TypeText.Quoted

/-!
# What stands where a script is refused

A script is refused at a place, and the reader who looks there should find what the error is
about: the token that is named, the character that cannot stand there, the end of the text. The
scanner places its faults by what is left of the text (`ScanFault.Shows`), the parser by the
token it is on (`SyntaxFault.IsAbout`), and tokens stand in the text where they say.

One fault shows something else than it names. An escape of four digits can number a surrogate,
which is no character; this is reported as the unexpected character `u`, but at the quote that
opens the literal, not at the `u` of the escape (`NumbersSurrogate`). The literal is told by
what the scanner has passed in it: closed in front of the escape, it would be a token.
-/

namespace TypeTest

/-! ## Numbers without a character -/

theorem hexValue_lt {c : Char} {d : Nat} (h : hexValue c = some d) : d < 16 := by
  have hdigit : ∀ {first last : Char} (base : Nat), first ≤ c ∧ c ≤ last →
      last.toNat + base < first.toNat + 16 → c.toNat - first.toNat + base < 16 := by
    intro first last base hc hlt
    have hfirst : first.toNat ≤ c.toNat := hc.1
    have hlast : c.toNat ≤ last.toNat := hc.2
    omega
  unfold hexValue at h
  split at h
  · cases h
    exact hdigit 0 ‹_› (by decide)
  split at h
  · cases h
    exact hdigit 10 ‹_› (by decide)
  split at h
  · cases h
    exact hdigit 10 ‹_› (by decide)
  · cases h

/-- The number that digits make of a number in front of them. -/
def hexFrom (value : Nat) (digits : List Char) : Option Nat :=
  digits.foldl (fun n c => n.bind fun n => (hexValue c).map (16 * n + ·)) (some value)

theorem hexFrom_cons {value d : Nat} {c : Char} (h : hexValue c = some d) (digits : List Char) :
    hexFrom value (c :: digits) = hexFrom (16 * value + d) digits := by
  unfold hexFrom
  rw [List.foldl_cons, Option.bind_some, h, Option.map_some]

/-- Digits alone make the number that they are. -/
theorem hexFrom_zero {digits : List Char} (h : digits ≠ []) :
    hexFrom 0 digits = hexNumber? digits := by
  obtain ⟨c, cs, rfl⟩ := List.exists_cons_of_ne_nil h
  rfl

variable {opening cs rest : List Char} {quote : Char} {fault : ScanFault}

/-- **Why digits are refused**: the text ends before the last of them, another character stands
in their place, or they number no character. -/
theorem readHex_refuses {count value : Nat} (h : readHex opening count value cs = .error fault) :
    fault = ⟨.unterminatedString, opening⟩
      ∨ (∃ c more, fault = ⟨.unexpectedChar c, c :: more⟩)
      ∨ fault = ⟨.unexpectedChar 'u', opening⟩ ∧ ∃ digits more n, cs = digits ++ more
          ∧ digits.length = count ∧ hexFrom value digits = some n
          ∧ n < (value + 1) * 16 ^ count ∧ charOfNat? n = none := by
  fun_induction readHex opening count value cs with
  | case1 => cases h
  | case2 value cs hnone =>
    cases h
    exact .inr (.inr ⟨rfl, [], cs, value, rfl, rfl, rfl, by omega, hnone⟩)
  | case3 =>
    cases h
    exact .inl rfl
  | case4 count value c cs d hd ih =>
    refine (ih h).imp_right (Or.imp_right ?_)
    rintro ⟨hfault, digits, more, n, rfl, hlength, hn, hlt, hnone⟩
    refine ⟨hfault, c :: digits, more, n, rfl, congrArg (· + 1) hlength, ?_, ?_, hnone⟩
    · rw [hexFrom_cons hd, Nat.mul_comm]
      exact hn
    · have hd := hexValue_lt hd
      have hmore : value * 16 + d + 1 ≤ (value + 1) * 16 := by omega
      rw [pow_succ', ← Nat.mul_assoc]
      exact Nat.lt_of_lt_of_le hlt (Nat.mul_le_mul_right _ hmore)
  | case5 =>
    cases h
    exact .inr (.inl ⟨_, _, rfl⟩)

/-- The numbers up to the largest one of four digits that are of no character are those of
surrogates. -/
theorem surrogate_of_charOfNat? {n : Nat} (h : charOfNat? n = none) (hlt : n < 0x10000) :
    0xD800 ≤ n ∧ n ≤ 0xDFFF := by
  unfold charOfNat? at h
  split at h
  · cases h
  · rename_i hvalid
    have : ¬ (n < 0xD800 ∨ 0xDFFF < n ∧ n < 0x110000) := hvalid
    omega

/-! ## What the scanner refuses -/

/-- **The escape of a surrogate** behind its backslash: four digits that number no character. -/
def EscapesSurrogate (cs : List Char) : Prop :=
  ∃ digits more value, cs = 'u' :: (digits ++ more) ∧ digits.length = 4 ∧
    hexNumber? digits = some value ∧ 0xD800 ≤ value ∧ value ≤ 0xDFFF

/-- **A literal with the escape of a surrogate**: the text between its opening quote and the
escape makes a literal if the quote closes it there. -/
def NumbersSurrogate (cs : List Char) : Prop :=
  ∃ quote inside escape, cs = quote :: (inside ++ '\\' :: escape) ∧
    TypeText.isQuote quote = true ∧ (∃ kind, scanToken quote (inside ++ [quote]) = .ok (kind, [])) ∧
    EscapesSurrogate escape

/-- **What is left where the scanner refuses a text** goes with what it says. -/
inductive ScanFault.Shows : ScanFault → Prop where
  | comment {rest : List Char} : Shows ⟨.prematureEnd, '/' :: '*' :: rest⟩
  | escape {quote : Char} {rest : List Char} : TypeText.isQuote quote = true →
    Shows ⟨.prematureEnd, quote :: rest⟩
  | literal {quote : Char} {rest : List Char} : TypeText.isQuote quote = true →
    Shows ⟨.unterminatedString, quote :: rest⟩
  | char {c : Char} {rest : List Char} : Shows ⟨.unexpectedChar c, c :: rest⟩
  | surrogate {rest : List Char} : NumbersSurrogate rest → Shows ⟨.unexpectedChar 'u', rest⟩

/-- A number in braces is refused at what stands in its place, or with the literal. -/
theorem readBraced_refuses (h : readBraced opening cs = .error fault) :
    fault = ⟨.prematureEnd, opening⟩ ∨ ∃ c more, fault = ⟨.unexpectedChar c, c :: more⟩ := by
  simp only [readBraced] at h
  split at h
  · cases h
  · cases h
    exact .inr ⟨_, _, rfl⟩
  · cases h
    exact .inl rfl

/-- **What is refused in a literal** from its opening quote on, where `surrogate` is known if it
is for the escape of a surrogate. -/
inductive LiteralFault (opening : List Char) (surrogate : Prop) : ScanFault → Prop where
  | unclosed : LiteralFault opening surrogate ⟨.unterminatedString, opening⟩
  | early : LiteralFault opening surrogate ⟨.prematureEnd, opening⟩
  | char {c : Char} {rest : List Char} :
    LiteralFault opening surrogate ⟨.unexpectedChar c, c :: rest⟩
  | surrogate : surrogate → LiteralFault opening surrogate ⟨.unexpectedChar 'u', opening⟩

theorem LiteralFault.imp {P Q : Prop} (h : LiteralFault opening P fault) (hPQ : P → Q) :
    LiteralFault opening Q fault := by
  cases h with
  | unclosed => exact .unclosed
  | early => exact .early
  | char => exact .char
  | surrogate hp => exact .surrogate (hPQ hp)

/-- **What is refused in an escape.** -/
theorem readEscape_refuses (h : readEscape opening cs = .error fault) :
    LiteralFault opening (EscapesSurrogate cs) fault := by
  unfold readEscape at h
  split at h
  · cases h
    exact .unclosed
  · cases h
  · rcases readHex_refuses h with rfl | ⟨c, more, rfl⟩ | ⟨_, _, _, n, _, _, _, hlt, hnone⟩
    · exact .unclosed
    · exact .char
    · -- two digits number a character
      have := surrogate_of_charOfNat? hnone (by omega)
      omega
  · rcases readBraced_refuses h with rfl | ⟨c, more, rfl⟩
    · exact .early
    · exact .char
  · rcases readHex_refuses h with rfl | ⟨c, more, rfl⟩ | ⟨rfl, digits, more, n, rfl, hlength,
      hn, hlt, hnone⟩
    · exact .unclosed
    · exact .char
    · have hne : digits ≠ [] := List.ne_nil_of_length_pos (by omega)
      obtain ⟨hlow, hhigh⟩ := surrogate_of_charOfNat? hnone (by omega)
      exact .surrogate ⟨digits, more, n, rfl, hlength, hexFrom_zero hne ▸ hn, hlow, hhigh⟩
  · cases h

/-- An escape that is read is the same in front of another rest. -/
theorem exists_readEscape_append {value left : List Char}
    (h : readEscape opening cs = .ok (value, left)) :
    ∃ escape, cs = escape ++ left ∧
      ∀ more, readEscape opening (escape ++ more) = .ok (value, more) := by
  obtain ⟨escape, rfl⟩ := readEscape_suffix h
  have hescape : readEscape opening escape = .ok (value, []) := readEscape_of_append h
  exact ⟨escape, rfl, fun more => readEscape_append hescape more⟩

/-- **What is refused in a string**: if it is the escape of a surrogate, then the string could be
closed in front of it. The induction is on what is left, so that each turn of the reader puts a
part in front of a string that can be closed. -/
theorem readString_refuses (hquote : quote = '"' ∨ quote = '\'')
    (h : readString opening quote cs = .error fault) :
    LiteralFault opening (∃ inside escape, cs = inside ++ '\\' :: escape ∧ EscapesSurrogate escape
      ∧ ∃ v, readString opening quote (inside ++ [quote]) = .ok (v, [])) fault := by
  fun_induction readString opening quote cs generalizing fault with
  | case1 =>
    cases h
    exact .unclosed
  | case2 =>
    cases h
    exact .unclosed
  | case3 cs f hf =>
    cases h
    refine (readEscape_refuses hf).imp fun hs => ⟨[], cs, rfl, hs, [], ?_⟩
    rw [List.nil_append, readString, if_pos (beq_self_eq_true _)] <;>
      rcases hquote with rfl | rfl <;> decide
  | case4 cs value left hr f hf ih =>
    cases h
    obtain ⟨passed, rfl, hpassed⟩ := exists_readEscape_append hr
    refine (ih hf).imp ?_
    rintro ⟨inside, escape, rfl, hs, v, hv⟩
    refine ⟨'\\' :: (passed ++ inside), escape, ?_, hs, value ++ v, ?_⟩
    · rw [List.cons_append, List.append_assoc]
    · rw [List.cons_append, List.append_assoc]
      exact readString_of_readEscape (hpassed _) hv
  | case5 => cases h
  | case6 => cases h
  | case7 c cs hn hb hc f hf ih =>
    cases h
    refine (ih hf).imp ?_
    rintro ⟨inside, escape, rfl, hs, v, hv⟩
    refine ⟨c :: inside, escape, rfl, hs, c :: v, ?_⟩
    rw [List.cons_append, readString, if_neg hc, hv]
    · exact hn
    · exact hb
  | case8 => cases h

/-- A text that is closed starts as it does with more behind it, or with what closes it. -/
theorem cons_ne_of_append_singleton {inside more : List Char} {b q : Char} (hq : q ≠ b)
    (h : ∀ ds, inside ++ more = b :: ds → False) (ds : List Char) : inside ++ [q] ≠ b :: ds := by
  intro he
  cases inside with
  | nil => exact hq (List.cons.inj he).1
  | cons d inside => exact h (inside ++ more) (by rw [(List.cons.inj he).1, List.cons_append])

/-- **What is refused in a template**: if it is the escape of a surrogate, then the template could
be closed in front of it. -/
theorem readTemplate_refuses {depth : Nat} (h : readTemplate opening depth cs = .error fault) :
    LiteralFault opening (∃ inside escape, cs = inside ++ '\\' :: escape ∧ EscapesSurrogate escape
      ∧ ∃ v, readTemplate opening depth (inside ++ ['\x60']) = .ok (v, [])) fault := by
  fun_induction readTemplate opening depth cs generalizing fault with
  | case1 =>
    cases h
    exact .unclosed
  | case2 => cases h
  | case3 cs f hf =>
    cases h
    refine (readEscape_refuses hf).imp fun hs => ⟨[], cs, rfl, hs, ⟨[], false⟩, ?_⟩
    rw [List.nil_append, readTemplate]
  | case4 cs value left hr f hf ih =>
    cases h
    obtain ⟨passed, rfl, hpassed⟩ := exists_readEscape_append hr
    refine (ih hf).imp ?_
    rintro ⟨inside, escape, rfl, hs, v, hv⟩
    refine ⟨'\\' :: (passed ++ inside), escape, ?_, hs, ⟨value ++ v.chars, v.substitutions⟩, ?_⟩
    · rw [List.cons_append, List.append_assoc]
    · rw [List.cons_append, List.append_assoc]
      exact readTemplate_of_readEscape (hpassed _) hv
  | case5 => cases h
  | case6 cs f hf ih =>
    cases h
    refine (ih hf).imp ?_
    rintro ⟨inside, escape, rfl, hs, v, hv⟩
    refine ⟨'$' :: '\x7b' :: inside, escape, rfl, hs, ⟨'$' :: '\x7b' :: v.chars, true⟩, ?_⟩
    rw [List.cons_append, List.cons_append, readTemplate, hv]
  | case7 => cases h
  | case8 =>
    rename_i depth c cs h₁ h₂ h₃ inner f hf ih
    cases h
    refine (ih hf).imp ?_
    rintro ⟨inside, escape, rfl, hs, v, hv⟩
    refine ⟨c :: inside, escape, rfl, hs, ⟨c :: v.chars, v.substitutions⟩, ?_⟩
    rw [List.cons_append, readTemplate]
    · simp only [inner, dite_eq_ite] at hv
      rw [hv]
    · exact h₁
    · exact h₂
    · exact fun ds hd hc => cons_ne_of_append_singleton (by decide) (fun ds => h₃ ds hd hc) ds
  | case9 => cases h

/-- What is refused in a literal shows what it names. -/
theorem LiteralFault.shows {body : List Char} {P : Prop} (hq : TypeText.isQuote quote = true)
    (h : LiteralFault (quote :: body) P fault) (hP : P → NumbersSurrogate (quote :: body)) :
    fault.Shows := by
  cases h with
  | unclosed => exact .literal hq
  | early => exact .escape hq
  | char => exact .char
  | surrogate hp => exact .surrogate (hP hp)

/-- **What is refused as a token.** -/
theorem scanToken_shows {c : Char} (h : scanToken c cs = .error fault) : fault.Shows := by
  unfold scanToken at h
  split at h
  · cases h
  split at h
  · cases h
  split at h
  · rename_i hquote
    have hc : c = '"' ∨ c = '\'' := by simpa using hquote
    have hq : TypeText.isQuote c = true := by
      unfold TypeText.isQuote
      rw [hquote, Bool.true_or]
    refine (readString_refuses hc (eq_error_of_map_eq_error h)).shows hq ?_
    rintro ⟨inside, escape, rfl, hs, v, hv⟩
    have hclosed : readString (c :: (inside ++ [c])) c (inside ++ [c]) = .ok (v, []) := by
      simpa only [List.append_nil] using readString_append hv []
    exact ⟨c, inside, escape, rfl, hq, ⟨_, scanToken_eq_ok_iff.mpr (.string hc hclosed)⟩, hs⟩
  split at h
  · rename_i hquote
    obtain rfl := eq_of_beq hquote
    refine (readTemplate_refuses (eq_error_of_map_eq_error h)).shows rfl ?_
    rintro ⟨inside, escape, rfl, hs, v, hv⟩
    have hclosed : readTemplate ('\x60' :: (inside ++ ['\x60'])) 0 (inside ++ ['\x60'])
        = .ok (v, []) := by
      simpa only [List.append_nil] using readTemplate_append hv []
    exact ⟨'\x60', inside, escape, rfl, rfl,
      ⟨_, scanToken_eq_ok_iff.mpr (.template rfl hclosed)⟩, hs⟩
  split at h
  · cases h
  · cases h
  · split at h
    · cases h
    · cases h
      exact .char

/-- What is refused before a token is a comment without an end. -/
theorem skipTrivia_shows (h : skipTrivia cs = .error fault) : fault.Shows := by
  fun_induction skipTrivia cs with
  | case1 => cases h
  | case2 cs ih => exact ih h
  | case3 cs left hleft ih => exact ih h
  | case4 =>
    cases h
    exact .comment
  | case5 c cs _ _ _ ih => exact ih h
  | case6 => cases h

/-- **What the scanner says goes with what it leaves.** -/
theorem Refused.shows (h : Refused cs fault) : fault.Shows := by
  induction h with
  | skipping hs => exact skipTrivia_shows hs
  | scanning _ ht => exact scanToken_shows ht
  | behind _ _ _ ih => exact ih

/-! ## Errors and what stands at them -/

/-- **A tree is refused** by the scanner, or by the parser. -/
theorem parseTree_eq_error {text : String} {fault : SyntaxFault}
    (h : parseTree text = .error fault) :
    tokenize text = .error fault ∨
      ∃ tokens, tokenize text = .ok tokens ∧ ∃ t ∈ tokens, fault.IsAbout t := by
  unfold parseTree at h
  split at h
  · rename_i found htokens
    cases h
    exact .inl htokens
  · rename_i tokens htokens
    split at h
    · rename_i found hscript
      cases h
      refine .inr ⟨tokens, htokens, Parser.exists_isAbout_of_script ?_ hscript⟩
      obtain ⟨init, e, rfl, _⟩ := (inOrder_tokenize htokens).last
      exact List.append_ne_nil_of_right_ne_nil _ (List.cons_ne_nil _ _)
    · cases h

/-- **The scanner refuses a text** at an end of it. -/
theorem exists_shows_of_tokenize {text : String} {fault : SyntaxFault}
    (h : tokenize text = .error fault) :
    ∃ before rest, text.toList = before ++ rest ∧ byteLength before = fault.offset ∧
      ScanFault.Shows ⟨fault.cause, rest⟩ := by
  obtain ⟨f, hf, rfl⟩ := tokenize_eq_error_iff.mp h
  obtain ⟨before, hbefore⟩ := hf.suffix
  refine ⟨before, f.rest, hbefore.symm, ?_, hf.shows⟩
  unfold ScanFault.locate
  rw [← hbefore, byteLength_append, Nat.add_sub_cancel]

/-- The error of a fault has the position after the text in front of it. -/
theorem ScriptError.ofFault_after {name : Option String} {text : String} {fault : SyntaxFault}
    {before rest : List Char} (htext : text.toList = before ++ rest)
    (hoffset : byteLength before = fault.offset) :
    ofFault name text fault = .malformed fault.cause name (.after before) := by
  rw [ofFault, htext, ← hoffset, LineColumn.ofOffset_byteLength]

/-- A token that is not the last one has characters. -/
theorem Token.InOrder.text_ne {ts : List Token} {t : Token} (h : InOrder ts) (ht : t ∈ ts)
    (he : t.isEnd = false) : t.text ≠ "" := by
  intro htext
  have hlt := h.nonempty t ht he
  unfold Token.stop at hlt
  rw [htext] at hlt
  exact absurd hlt (Nat.lt_irrefl _)

/-- The end token is the last one. -/
theorem Token.InOrder.eq_concat {ts : List Token} {t : Token} (h : InOrder ts) (ht : t ∈ ts)
    (he : t.isEnd = true) : ∃ init, ts = init ++ [t] := by
  obtain ⟨init, e, rfl, _, hinit⟩ := h.last
  rcases List.mem_append.mp ht with ht | ht
  · exact absurd (he.symm.trans (hinit t ht)) (by decide)
  · exact ⟨init, by rw [List.mem_singleton.mp ht]⟩

/-- **An error stands at what it names.** A text that is refused is cut in two where the error
stands, and the position of the error is that after the first part. Where a token is named, its
characters are not none, and the second part starts with them. Where a character is named, the
second part starts with it, or else it is the letter `u`, and the second part starts with a
literal that has the escape of a surrogate. And where the text can be scanned and is said to end
too early, the cut is at the end token. -/
theorem ScriptFile.error_stands_at {name text : String} {e : ScriptError}
    (h : ScriptFile.parse name text = .error e) :
    ∃ cause before rest, text.toList = before ++ rest ∧
      e = .malformed cause (some name) (.after before) ∧
      (∀ found expected, cause = .unexpectedToken found expected →
        found ≠ "" ∧ found.toList <+: rest) ∧
      (∀ c, cause = .unexpectedChar c →
        rest.head? = some c ∨ c = 'u' ∧ NumbersSurrogate rest) ∧
      (∀ tokens, tokenize text = .ok tokens → cause = .prematureEnd →
        ∃ init ending, tokens = init ++ [ending] ∧ ending.isEnd = true ∧
          byteLength before = ending.start) := by
  cases hroot : parseTree text with
  | ok root => exact absurd (h.symm.trans (parse_of_ok hroot)) (by simp)
  | error fault =>
    obtain rfl : ScriptError.ofFault (some name) text fault = e :=
      Except.error.inj ((parse_of_error hroot).symm.trans h)
    rcases parseTree_eq_error hroot with hscan | ⟨tokens, htokens, t, ht, habout⟩
    · obtain ⟨before, rest, htext, hoffset, hshows⟩ := exists_shows_of_tokenize hscan
      refine ⟨fault.cause, before, rest, htext, ScriptError.ofFault_after htext hoffset,
        fun found expected hc => ?_, fun c hc => ?_,
        fun tokens htokens => by cases hscan.symm.trans htokens⟩
      · rw [hc] at hshows
        cases hshows
      · rw [hc] at hshows
        cases hshows with
        | char => exact .inl rfl
        | surrogate hs => exact .inr ⟨rfl, hs⟩
    · obtain ⟨before, after, htext, hstart⟩ := standsIn_tokenize htokens t ht
      rw [Nat.zero_add] at hstart
      have hoffset : byteLength before = fault.offset := by
        cases habout <;> exact hstart.symm
      refine ⟨fault.cause, before, t.text.toList ++ after, htext,
        ScriptError.ofFault_after htext hoffset, fun found expected hc => ?_, fun c hc => ?_,
        fun others hothers hc => ?_⟩
      · cases habout with
        | token he =>
          cases hc
          exact ⟨(inOrder_tokenize htokens).text_ne ht he, List.prefix_append _ _⟩
        | ending | nesting => cases hc
      · cases habout <;> cases hc
      · cases habout with
        | ending he =>
          obtain rfl := Except.ok.inj (htokens.symm.trans hothers)
          obtain ⟨init, hinit⟩ := (inOrder_tokenize htokens).eq_concat ht he
          exact ⟨init, t, hinit, he, hstart.symm⟩
        | token | nesting => cases hc

/-- In place of an argument stands a semicolon, and the error stands at it. -/
theorem ScriptFile.error_at_semicolon :
    ScriptFile.parse "x.ts" "f(;" = .error (.malformed (.unexpectedToken ";" "expression")
        (some "x.ts") ⟨0, 2⟩) ∧
      ∃ before rest, "f(;".toList = before ++ rest ∧ (⟨0, 2⟩ : LineColumn) = .after before ∧
        [';'] <+: rest := by
  have hroot : parseTree "f(;" = .error ⟨.unexpectedToken ";" "expression", 2⟩ :=
    eq_error_of_test (by decide +kernel)
  have hparse : ScriptFile.parse "x.ts" "f(;" = .error (.malformed
      (.unexpectedToken ";" "expression") (some "x.ts") ⟨0, 2⟩) :=
    (parse_of_error hroot).trans (congrArg _ (by decide +kernel))
  obtain ⟨cause, before, rest, htext, he, hfound, _⟩ := error_stands_at hparse
  obtain ⟨rfl, _, hposition⟩ := ScriptError.malformed.inj he
  exact ⟨hparse, before, rest, htext, hposition, (hfound _ _ rfl).2⟩

/-- **The escape of a surrogate is reported at the quote**: the error names the letter `u`, and
nowhere in the text does this letter stand at its position. -/
theorem ScriptFile.error_of_surrogate :
    ∃ position, ScriptFile.parse "x.ts" "\"\\ud800\"" = .error (.malformed (.unexpectedChar 'u')
        (some "x.ts") position) ∧
      ∀ before rest, "\"\\ud800\"".toList = before ++ rest → position = .after before →
        rest.head? ≠ some 'u' := by
  have hroot : parseTree "\"\\ud800\"" = .error ⟨.unexpectedChar 'u', 0⟩ :=
    eq_error_of_test (by decide +kernel)
  refine ⟨⟨0, 0⟩, (parse_of_error hroot).trans (congrArg _ (by decide +kernel)), ?_⟩
  intro before rest htext hposition
  have hall : ∀ n < 9, (⟨0, 0⟩ : LineColumn) = .after ("\"\\ud800\"".toList.take n) →
      ("\"\\ud800\"".toList.drop n).head? ≠ some 'u' := by
    decide +kernel
  have hlength : before.length < 9 := by
    have := congrArg List.length htext
    rw [List.length_append] at this
    have htotal : "\"\\ud800\"".toList.length = 8 := by decide +kernel
    omega
  have hcut := hall before.length hlength
  rw [htext, List.take_left, List.drop_left] at hcut
  exact hcut hposition

end TypeTest
