import TypeTest.Proofs.Parsing.Spelling
import TypeTest.Proofs.Printing.Lexemes

/-!
# The tokens of joined texts

A line break ends every token and every line comment, and no block comment is open where a
text ends. So if a second text follows a first one after a line break, the tokens of the first
are scanned as before, all but its end token; what was skipped before that end is now skipped
before the first token of the second text, which is scanned as it is alone, at other offsets.
-/

namespace TypeTest

variable {cs rest more : List Char} {offset : Nat} {ts us : List Token}

namespace Token

/-- The token at an offset that is greater by `count`. -/
def shift (count : Nat) (t : Token) : Token := { t with start := t.start + count }

/-- Tokens with more skipped before the first of them. -/
def behind (trivia : String) : List Token → List Token
  | [] => []
  | t :: ts => { t with trivia := trivia ++ t.trivia } :: ts

@[simp] theorem stop_shift (count : Nat) (t : Token) : (t.shift count).stop = t.stop + count :=
  Nat.add_right_comm _ _ _

theorem shift_comp_shift (count more : Nat) : shift more ∘ shift count = shift (count + more) :=
  funext fun t => congrArg (Token.mk t.kind t.trivia t.text) (Nat.add_assoc t.start count more)

/-- What is skipped before the first token does not depend on the offset. -/
theorem map_shift_behind (count : Nat) (trivia : String) (ts : List Token) :
    (behind trivia ts).map (shift count) = behind trivia (ts.map (shift count)) := by
  cases ts <;> rfl

end Token

/-! ## What is skipped -/

theorem afterComment_append (h : afterComment cs = some rest) (more : List Char) :
    afterComment (cs ++ more) = some (rest ++ more) := by
  fun_induction afterComment cs with
  | case1 => cases h
  | case2 cs =>
    obtain rfl := Option.some.inj h
    rfl
  | case3 c cs hne ih =>
    rw [List.cons_append, afterComment]
    · exact ih h
    · -- the comment does not end with its last character
      intro bs hc he
      cases cs with
      | nil => cases h
      | cons d ds => exact hne ds hc (by rw [(List.cons.inj he).1])

/-- A blank is skipped. -/
theorem skipTrivia_blank {b : Char} (hb : isBlank b = true) (more : List Char) :
    skipTrivia (b :: more) = skipTrivia more := by
  have hslash : b ≠ '/' := by
    rintro rfl
    revert hb
    decide
  rw [skipTrivia, if_pos hb]
  · exact fun _ he _ => hslash he
  · exact fun _ he _ => hslash he

/-- A text that does not start with a character does not start with it in front of another
character. -/
theorem ne_append_cons {b d : Char} (hd : d ≠ b) (h : ∀ ds, cs ≠ d :: ds) (bs : List Char) :
    cs ++ b :: more ≠ d :: bs := by
  intro he
  cases cs with
  | nil => exact hd (List.cons.inj he).1.symm
  | cons e es => exact h es (by rw [(List.cons.inj he).1])

/-- **In front of a blank the same is skipped**, and the blank is skipped too if nothing is left.
But where nothing is left, a comment may go on over a blank that does not end its line. -/
theorem skipTrivia_append_blank {b : Char} (hb : isBlank b = true) (h : skipTrivia cs = .ok rest)
    (hclosed : b = '\n' ∨ rest ≠ []) (more : List Char) :
    skipTrivia (cs ++ b :: more)
      = if rest = [] then skipTrivia more else .ok (rest ++ b :: more) := by
  have hslash : '/' ≠ b ∧ '*' ≠ b := by
    constructor <;> (rintro rfl; revert hb; decide)
  fun_induction skipTrivia cs with
  | case1 =>
    cases h
    exact skipTrivia_blank hb more
  | case2 cs ih =>
    have hdrop : (cs ++ b :: more).dropWhile (· != '\n')
        = cs.dropWhile (· != '\n') ++ b :: more := by
      rcases hclosed with rfl | hrest
      · refine dropWhile_append_of_ends fun b bs hb => ?_
        rw [← (List.cons.inj hb).1]
        rfl
      · have hleft : cs.dropWhile (· != '\n') ≠ [] := by
          intro hnil
          rw [hnil, skipTrivia] at h
          exact hrest (Except.ok.inj h).symm
        rw [List.dropWhile_append, if_neg fun hempty => hleft (List.isEmpty_iff.mp hempty)]
    rw [List.cons_append, List.cons_append, skipTrivia, hdrop]
    exact ih h
  | case3 cs after hafter ih =>
    have hopen := afterComment_append hafter (b :: more)
    rw [List.cons_append, List.cons_append, skipTrivia]
    split
    · rename_i left hleft
      cases hleft.symm.trans hopen
      exact ih h
    · rename_i hnone
      cases hnone.symm.trans hopen
  | case4 => cases h
  | case5 c cs hline hblock hblank ih =>
    rw [List.cons_append, skipTrivia, if_pos hblank]
    · exact ih h
    · exact fun bs hc => ne_append_cons hslash.1 (fun ds => hline ds hc) bs
    · exact fun bs hc => ne_append_cons hslash.2 (fun ds => hblock ds hc) bs
  | case6 c cs hline hblock hblank =>
    cases h
    rw [if_neg (List.cons_ne_nil _ _), List.cons_append, skipTrivia, if_neg hblank]
    · exact fun bs hc => ne_append_cons hslash.1 (fun ds => hline ds hc) bs
    · exact fun bs hc => ne_append_cons hslash.2 (fun ds => hblock ds hc) bs

/-- **In front of a line break the same is skipped**, and at the end of the text the line break
is skipped too. -/
theorem skipTrivia_append_line (h : skipTrivia cs = .ok rest) (more : List Char) :
    skipTrivia (cs ++ '\n' :: more)
      = if rest = [] then skipTrivia more else .ok (rest ++ '\n' :: more) :=
  skipTrivia_append_blank (by decide) h (.inl rfl) more

/-! ## What is scanned -/

/-- Where a text ends, only the end token is scanned. -/
theorem tokensFrom_of_skipped (h : skipTrivia cs = .ok []) (offset : Nat) :
    tokensFrom offset cs = .ok [⟨.endOfText, readPart cs [], "", offset + byteLength cs⟩] := by
  rw [tokensFrom]
  split
  · rename_i hf
    cases hf.symm.trans h
  · rfl
  · rename_i hf
    cases hf.symm.trans h

/-- **The same tokens at other offsets.** -/
theorem tokensFrom_shift (h : tokensFrom offset cs = .ok ts) (count : Nat) :
    tokensFrom (offset + count) cs = .ok (ts.map (Token.shift count)) := by
  fun_induction tokensFrom offset cs generalizing ts with
  | case1 => cases h
  | case2 offset cs hs =>
    cases h
    rw [tokensFrom_of_skipped hs, Nat.add_right_comm]
    rfl
  | case3 => cases h
  | case4 => cases h
  | case5 offset cs c body hs kind rest hk trivia text token more hm =>
    rename_i ih
    cases h
    refine tokensFrom_step hs hk rfl rfl (Nat.add_right_comm _ _ _) ?_
    rw [Token.stop_shift]
    exact ih hm

/-- What was read before a rest of the second text is read after the first. -/
theorem readPart_behind {before : List Char} (h : rest <:+ cs) :
    readPart (before ++ cs) rest = String.ofList before ++ readPart cs rest := by
  obtain ⟨mid, rfl⟩ := h
  rw [← List.append_assoc, readPart_append, readPart_append, String.ofList_append]

/-- What comes after the rest makes no difference to what was read before it. -/
theorem readPart_append_append (h : rest <:+ cs) :
    readPart (cs ++ more) (rest ++ more) = readPart cs rest := by
  obtain ⟨mid, rfl⟩ := h
  rw [List.append_assoc, readPart_append, readPart_append]

/-- **Behind a text that is skipped** the tokens are the same, with more skipped before the
first of them. -/
theorem tokensFrom_behind {before : List Char} (hs : skipTrivia (before ++ cs) = skipTrivia cs)
    (h : tokensFrom (offset + byteLength before) cs = .ok ts) :
    tokensFrom offset (before ++ cs) = .ok (Token.behind (String.ofList before) ts) := by
  generalize ho : offset + byteLength before = start at h
  fun_induction tokensFrom start cs with
  | case1 => cases h
  | case2 start cs hnil =>
    subst ho
    cases h
    rw [tokensFrom_of_skipped (hs.trans hnil), readPart_behind List.nil_suffix, byteLength_append,
      ← Nat.add_assoc]
    rfl
  | case3 => cases h
  | case4 => cases h
  | case5 start cs c body hcons kind rest hk trivia text token more hm =>
    subst ho
    cases h
    have hstart : offset + byteLength (String.ofList before ++ trivia).toList = token.start := by
      rw [String.toList_append, String.toList_ofList, byteLength_append, ← Nat.add_assoc]
    exact tokensFrom_step (t := { token with trivia := String.ofList before ++ trivia })
      (hs.trans hcons) hk (readPart_behind (skipTrivia_suffix hcons)) rfl hstart hm

/-- **The tokens of a text come first** in a text that goes on after a blank: all but the end
token, whose trivia now stands before what follows. No comment at the end of the text may go on
over the blank, so the blank is a line break, or nothing is skipped behind the last token. -/
theorem tokensFrom_append_blank {b : Char} (hb : isBlank b = true)
    (hends : ∀ kind : TokenKind, kind.EndsBefore (b :: more)) (h : tokensFrom offset cs = .ok ts)
    (hclosed : b = '\n' ∨ ∀ e ∈ ts.getLast?, e.trivia = "")
    (hmore : tokensFrom (offset + byteLength cs + byteLength [b]) more = .ok us) :
    ∃ init e, ts = init ++ [e] ∧ e.isEnd = true
      ∧ tokensFrom offset (cs ++ b :: more)
        = .ok (init ++ Token.behind (e.trivia ++ String.ofList [b]) us) := by
  fun_induction tokensFrom offset cs generalizing ts with
  | case1 => cases h
  | case2 offset cs hnil =>
    cases h
    refine ⟨[], _, rfl, rfl, ?_⟩
    have hcs : readPart cs [] = String.ofList cs := by
      have happend := readPart_append cs []
      rwa [List.append_nil] at happend
    have hskip : skipTrivia (cs ++ b :: more) = skipTrivia more := by
      rcases hclosed with rfl | hlast
      · rw [skipTrivia_append_line hnil more, if_pos rfl]
      · have hempty : String.ofList cs = "" := hcs ▸ hlast _ rfl
        obtain rfl : cs = [] :=
          String.toList_ofList.symm.trans (congrArg String.toList hempty)
        exact skipTrivia_blank hb more
    rw [hcs, ← String.ofList_append, List.append_cons, List.nil_append]
    refine tokensFrom_behind ?_ ?_
    · rw [← List.append_cons, hskip]
    · rw [byteLength_append, ← Nat.add_assoc]
      exact hmore
  | case3 => cases h
  | case4 => cases h
  | case5 offset cs c body hcons kind rest hk trivia text token others hm =>
    rename_i ih
    cases h
    have hsuffix := (scanToken_suffix hk).trans (List.suffix_cons c body)
    have hcs : byteLength cs = byteLength trivia.toList + byteLength (c :: body) := by
      rw [← byteLength_append, toList_readPart_append (skipTrivia_suffix hcons)]
    have hbody : byteLength (c :: body) = byteLength text.toList + byteLength rest := by
      rw [← byteLength_append, toList_readPart_append hsuffix]
    have hlength : offset + byteLength cs = token.stop + byteLength rest := by
      rw [hcs, hbody, ← Nat.add_assoc, ← Nat.add_assoc]
      rfl
    have hothers : b = '\n' ∨ ∀ e ∈ others.getLast?, e.trivia = "" :=
      hclosed.imp_right fun hlast e he => hlast e (List.mem_getLast?_cons he)
    obtain ⟨init, e, rfl, he, hstep⟩ := ih hm hothers (hlength ▸ hmore)
    refine ⟨token :: init, e, rfl, he, ?_⟩
    have hskip : skipTrivia (cs ++ b :: more) = .ok (c :: (body ++ b :: more)) :=
      skipTrivia_append_blank hb hcons (.inr (List.cons_ne_nil _ _)) more
    exact tokensFrom_step hskip (scanToken_append hk (hends kind))
      (readPart_append_append (skipTrivia_suffix hcons)) (readPart_append_append hsuffix) rfl hstep

/-- **The tokens of a text come first** in a text that goes on after a line break. -/
theorem tokensFrom_append_line (h : tokensFrom offset cs = .ok ts)
    (hmore : tokensFrom (offset + byteLength cs + 1) more = .ok us) :
    ∃ init e, ts = init ++ [e] ∧ e.isEnd = true
      ∧ tokensFrom offset (cs ++ '\n' :: more)
        = .ok (init ++ Token.behind (e.trivia ++ "\n") us) :=
  tokensFrom_append_blank (by decide) (fun kind => kind.endsBefore_lineBreak more) h (.inl rfl)
    hmore

/-! ## Texts on lines of their own -/

/-- **Two texts**, the second one on the line below the first. -/
def stacked (a b : String) : String := a ++ "\n" ++ b

/-- What stands before the second text. -/
def stackedStart (a : String) : Nat := byteLength a.toList + 1

theorem toList_stacked (a b : String) : (stacked a b).toList = a.toList ++ '\n' :: b.toList := by
  rw [stacked, String.toList_append, String.toList_append, List.append_assoc]
  rfl

/-- **The tokens of stacked texts** are those of the first one but for its end token, then those
of the second one, further on and after a line break. -/
theorem exists_tokenize_stacked {a b : String} (ha : tokenize a = .ok ts)
    (hb : tokenize b = .ok us) :
    ∃ init e, ts = init ++ [e] ∧ e.isEnd = true
      ∧ tokenize (stacked a b)
        = .ok (init ++ Token.behind (e.trivia ++ "\n") (us.map (Token.shift (stackedStart a)))) := by
  rw [tokenize_eq_ok] at ha hb
  have hsecond : tokensFrom (0 + byteLength a.toList + 1) b.toList
      = .ok (us.map (Token.shift (stackedStart a))) := by
    rw [Nat.add_assoc]
    exact tokensFrom_shift hb (stackedStart a)
  obtain ⟨init, e, rfl, he, hjoined⟩ := tokensFrom_append_line ha hsecond
  rw [← toList_stacked, ← tokenize_eq_ok] at hjoined
  exact ⟨init, e, rfl, he, hjoined⟩

/-! ## Texts joined by a semicolon -/

/-- **Two texts with a semicolon between them**, on a line of its own. -/
def separated (a b : String) : String := a ++ "\n;\n" ++ b

/-- What stands before the second text. -/
def separatedStart (a : String) : Nat := byteLength a.toList + 3

theorem separated_eq (a b : String) : separated a b = stacked a (stacked ";" b) := by
  refine String.toList_injective ?_
  rw [separated, String.toList_append, String.toList_append, toList_stacked, toList_stacked,
    List.append_assoc]
  rfl

/-- **The tokens of separated texts** are those of the first one but for its end token, then the
semicolon, then those of the second one, further on and after a line break. -/
theorem exists_tokenize_separated {a b : String} (ha : tokenize a = .ok ts)
    (hb : tokenize b = .ok us) :
    ∃ init e s, ts = init ++ [e] ∧ e.isEnd = true ∧ s.isPunct ';' = true
      ∧ tokenize (separated a b)
        = .ok (init ++ s :: Token.behind "\n" (us.map (Token.shift (separatedStart a)))) := by
  have hsemicolon : tokenize ";" = .ok [⟨.punct ';', "", ";", 0⟩, ⟨.endOfText, "", "", 1⟩] := by
    decide +kernel
  obtain ⟨first, last, hlast, -, hbelow⟩ := exists_tokenize_stacked hsemicolon hb
  obtain ⟨rfl, hend⟩ := List.append_inj' (show [_] ++ [_] = first ++ [last] from hlast) rfl
  obtain ⟨init, e, rfl, he, hjoined⟩ := exists_tokenize_stacked ha hbelow
  have hstart : stackedStart ";" + stackedStart a = separatedStart a := by
    have hone : byteLength ";".toList = 1 := by decide
    rw [stackedStart, stackedStart, separatedStart, hone]
    omega
  rw [List.map_append, Token.map_shift_behind, List.map_map, Token.shift_comp_shift, hstart,
    ← (List.cons.inj hend).1, ← separated_eq] at hjoined
  exact ⟨init, e, _, rfl, he, rfl, hjoined⟩

end TypeTest
