import TypeTest.Proofs.Parsing.TokenOrder

/-!
# Printed tokens are scanned again

A lexeme is a token without its place: what it is and its characters. It **scans** if
its characters alone are scanned as that token. Every token ends by itself: names and
numbers at a character they cannot go on with, strings and templates at their closing
quote, and the marks of several characters at the last of them. So whatever scans alone
scans the same in front of any text that it **ends before**; every token ends before a
blank, and lexemes printed with single blanks between them are scanned one by one, and
the end token follows.
-/

namespace TypeTest

/-- **A token without its place.** -/
structure Lexeme where
  kind : TokenKind
  text : String

/-- What a token is, and its characters. -/
def Token.lexeme (t : Token) : Lexeme := ⟨t.kind, t.text⟩

namespace Lexeme

/-- The end of a text. -/
def ending : Lexeme := ⟨.endOfText, ""⟩

/-- **A lexeme that scans**: its characters, which do not start with a blank, are scanned
as the token it is. -/
def Scans (l : Lexeme) : Prop :=
  ∃ c cs, l.text.toList = c :: cs ∧ isBlank c = false ∧ scanToken c cs = .ok (l.kind, [])

end Lexeme

/-! ## Lexemes in a text -/

/-- **A lexeme with what stands in front of it.** -/
structure Piece where
  gap : String
  lexeme : Lexeme

/-- The characters of pieces. -/
def characters (ps : List Piece) : List Char :=
  ps.flatMap fun p => p.gap.toList ++ p.lexeme.text.toList

@[simp] theorem characters_nil : characters [] = [] := rfl

@[simp] theorem characters_cons (p : Piece) (ps : List Piece) :
    characters (p :: ps) = p.gap.toList ++ (p.lexeme.text.toList ++ characters ps) := by
  rw [characters, List.flatMap_cons, List.append_assoc]
  rfl

@[simp] theorem characters_append (ps qs : List Piece) :
    characters (ps ++ qs) = characters ps ++ characters qs :=
  List.flatMap_append

/-- A token with what stands in front of it. -/
def Token.piece (t : Token) : Piece := ⟨t.trivia, t.lexeme⟩

/-! ## Text after a token changes nothing -/

variable {opening opening' cs v rest : List Char}

theorem readHex_append {count value : Nat} (h : readHex opening count value cs = .ok (v, rest))
    (more : List Char) : readHex opening' count value (cs ++ more) = .ok (v, rest ++ more) := by
  fun_induction readHex opening count value cs with
  | case1 value cs c hc =>
    cases h
    rw [readHex, hc]
  | case2 => cases h
  | case3 => cases h
  | case4 count value c cs d hd ih =>
    rw [List.cons_append, readHex, hd]
    exact ih h
  | case5 => cases h

theorem readBraced_append (h : readBraced opening cs = .ok (v, rest)) (more : List Char) :
    readBraced opening' (cs ++ more) = .ok (v, rest ++ more) := by
  have hd : ∀ c cs', cs.dropWhile (fun c => (hexValue c).isSome) = c :: cs' →
      (cs ++ more).dropWhile (fun c => (hexValue c).isSome) = c :: cs' ++ more
        ∧ (cs ++ more).takeWhile (fun c => (hexValue c).isSome)
          = cs.takeWhile fun c => (hexValue c).isSome := by
    intro c cs' hdrop
    have hne : (cs.takeWhile fun c => (hexValue c).isSome).length ≠ cs.length := by
      have := congrArg List.length
        (List.takeWhile_append_dropWhile (p := fun c => (hexValue c).isSome) (l := cs))
      rw [List.length_append, hdrop, List.length_cons] at this
      omega
    rw [List.dropWhile_append, List.takeWhile_append, hdrop, if_neg hne]
    exact ⟨rfl, rfl⟩
  unfold readBraced at h ⊢
  dsimp only at h ⊢
  split at h
  · rename_i c rest' hpoint hdrop
    cases h
    obtain ⟨h₁, h₂⟩ := hd _ _ hdrop
    rw [h₁, h₂, hpoint]
    rfl
  · cases h
  · cases h

theorem readEscape_append (h : readEscape opening cs = .ok (v, rest)) (more : List Char) :
    readEscape opening' (cs ++ more) = .ok (v, rest ++ more) := by
  unfold readEscape at h
  split at h
  · cases h
  · cases h
    rfl
  · exact readHex_append h more
  · exact readBraced_append h more
  · rename_i cs hbrace
    cases cs with
    | nil => cases h
    | cons c cs =>
      have hc : c ≠ '\x7b' := fun hc => hbrace cs (by rw [hc])
      rw [List.cons_append, List.cons_append, readEscape]
      · exact readHex_append h more
      · intro cs' he
        exact hc (List.cons.inj he).1
  · rename_i c cs hn hx hb hu
    cases h
    rw [List.cons_append, readEscape]
    · exact hn
    · exact hx
    · exact fun cs' hc he => hu hc
    · exact hu

theorem readString_append {quote : Char} (h : readString opening quote cs = .ok (v, rest))
    (more : List Char) :
    readString opening' quote (cs ++ more) = .ok (v, rest ++ more) := by
  fun_induction readString opening quote cs generalizing v rest with
  | case1 => cases h
  | case2 => cases h
  | case3 => cases h
  | case4 => cases h
  | case5 cs value rest₁ hr m rest₂ hm ih =>
    cases h
    have he := @readEscape_append _ opening' _ _ _ hr more
    rw [List.cons_append, readString]
    split
    · rename_i hf
      rw [he] at hf
      cases hf
    · rename_i hf
      rw [he] at hf
      cases hf
      rw [ih hm]
  | case6 c cs hn hb hq =>
    cases h
    rw [List.cons_append, readString, if_pos hq]
    · exact hn
    · exact hb
  | case7 => cases h
  | case8 c cs hn hb hq m rest₁ hm ih =>
    cases h
    rw [List.cons_append, readString, if_neg hq, ih hm]
    · exact hn
    · exact hb

theorem readTemplate_append {depth : Nat} {v : TemplateValue}
    (h : readTemplate opening depth cs = .ok (v, rest)) (more : List Char) :
    readTemplate opening' depth (cs ++ more) = .ok (v, rest ++ more) := by
  fun_induction readTemplate opening depth cs generalizing v rest with
  | case1 => cases h
  | case2 =>
    cases h
    rw [List.cons_append, readTemplate]
  | case3 => cases h
  | case4 => cases h
  | case5 cs value rest₁ hr m rest₂ hm ih =>
    cases h
    have he := @readEscape_append _ opening' _ _ _ hr more
    rw [List.cons_append, readTemplate]
    split
    · rename_i hf
      rw [he] at hf
      cases hf
    · rename_i hf
      rw [he] at hf
      cases hf
      rw [ih hm]
  | case6 => cases h
  | case7 cs m rest₁ hm ih =>
    cases h
    rw [List.cons_append, List.cons_append, readTemplate, ih hm]
  | case8 => cases h
  | case9 =>
    rename_i depth c cs h₁ h₂ h₃ inside m rest₁ hm ih
    cases h
    rw [List.cons_append, readTemplate]
    · have hin := ih hm
      simp only [inside, dite_eq_ite] at hin
      rw [hin]
    · exact h₁
    · exact h₂
    · -- a brace after the dollar sign would have been there before
      intro cs' hd hc he
      cases cs with
      | nil =>
        rw [readTemplate] at hm
        cases hm
      | cons d cs => exact h₃ cs hd hc (by rw [(List.cons.inj he).1])

/-! ## Escapes in literals -/

/-- An escape in a string is read as what it stands for. -/
theorem readString_of_readEscape {quote : Char} {mid value v : List Char}
    (h : readEscape opening cs = .ok (value, mid))
    (hv : readString opening quote mid = .ok (v, rest)) :
    readString opening quote ('\\' :: cs) = .ok (value ++ v, rest) := by
  rw [readString]
  split
  · rename_i hf
    cases hf.symm.trans h
  · rename_i hf
    cases hf.symm.trans h
    rw [hv]

/-- An escape in a template is read as what it stands for. -/
theorem readTemplate_of_readEscape {mid value : List Char} {v : TemplateValue}
    (h : readEscape opening cs = .ok (value, mid))
    (hv : readTemplate opening 0 mid = .ok (v, rest)) :
    readTemplate opening 0 ('\\' :: cs) = .ok (⟨value ++ v.chars, v.substitutions⟩, rest) := by
  rw [readTemplate]
  split
  · rename_i hf
    cases hf.symm.trans h
  · rename_i hf
    cases hf.symm.trans h
    rw [hv]

/-! ## A token ends by itself -/

/-- **Whether a token ends before a character**: whether it would not go on with it. -/
def TokenKind.endsBefore (kind : TokenKind) (b : Char) : Bool :=
  match kind with
  | .identifier => !isNamePart b
  | .number => !isNumberPart b
  | .punct '=' => b != '>'
  | .punct '.' => b != '.'
  | .punct '/' => b != '/' && b != '*'
  | _ => true

/-- A token ends before a text: before its first character, if there is one. -/
def TokenKind.EndsBefore (kind : TokenKind) (cs : List Char) : Prop :=
  ∀ b more, cs = b :: more → kind.endsBefore b = true

theorem TokenKind.endsBefore_nil (kind : TokenKind) : kind.EndsBefore [] := by
  intro b more h
  cases h

theorem TokenKind.endsBefore_cons {kind : TokenKind} {b : Char} (h : kind.endsBefore b = true)
    (more : List Char) : kind.EndsBefore (b :: more) := by
  intro b' more' he
  rw [← (List.cons.inj he).1]
  exact h

/-- Every token ends before a character that is part of no name or number and of no mark of
several characters. -/
theorem TokenKind.endsBefore_of_notMem {b : Char} (hname : isNamePart b = false)
    (hnumber : isNumberPart b = false) (hmark : b ∉ ['>', '.', '/', '*']) (kind : TokenKind) :
    kind.endsBefore b = true := by
  simp only [List.mem_cons, List.not_mem_nil, or_false, not_or] at hmark
  unfold endsBefore
  split <;> simp [hname, hnumber, hmark]

/-- **Every token ends before a blank.** -/
theorem TokenKind.endsBefore_blank (kind : TokenKind) (more : List Char) :
    kind.EndsBefore (' ' :: more) :=
  endsBefore_cons (endsBefore_of_notMem (by decide) (by decide) (by decide) kind) more

/-- Every token ends before a line break. -/
theorem TokenKind.endsBefore_lineBreak (kind : TokenKind) (more : List Char) :
    kind.EndsBefore ('\n' :: more) :=
  endsBefore_cons (endsBefore_of_notMem (by decide) (by decide) (by decide) kind) more

theorem dropWhile_append_of_ends {p : Char → Bool} {more : List Char}
    (hp : ∀ b bs, more = b :: bs → p b = false) :
    (cs ++ more).dropWhile p = cs.dropWhile p ++ more := by
  have hmore : more.dropWhile p = more := by
    cases more with
    | nil => rfl
    | cons b bs =>
      exact List.dropWhile_cons_of_neg (by rw [hp b bs rfl]; exact Bool.false_ne_true)
  rw [List.dropWhile_append]
  split
  · rename_i h
    rw [List.isEmpty_iff.mp h, hmore]
    rfl
  · rfl

/-- **A token is scanned the same in front of more text** that it ends before. -/
theorem scanToken_append {c : Char} {kind : TokenKind} {more : List Char}
    (h : scanToken c cs = .ok (kind, rest)) (hends : kind.EndsBefore more) :
    scanToken c (cs ++ more) = .ok (kind, rest ++ more) := by
  refine scanToken_eq_ok_iff.mpr ?_
  cases scanToken_eq_ok_iff.mp h with
  | name hc =>
    rw [← dropWhile_append_of_ends fun b bs hb => Bool.not_eq_true' _ ▸ hends b bs hb]
    exact .name hc
  | number hname hc =>
    rw [← dropWhile_append_of_ends fun b bs hb => Bool.not_eq_true' _ ▸ hends b bs hb]
    exact .number hname hc
  | string hc h => exact .string hc (readString_append h more)
  | template hc h => exact .template hc (readTemplate_append h more)
  | arrow hc hcs => exact .arrow hc (congrArg (· ++ more) hcs)
  | ellipsis hc hcs => exact .ellipsis hc (congrArg (· ++ more) hcs)
  | mark hname hdigit hquote hc harrow hdots =>
    -- what comes after the mark makes it no other
    refine .mark hname hdigit hquote hc ?_ ?_
    · rintro rfl hhead
      cases cs with
      | nil =>
        obtain ⟨bs, rfl⟩ := List.head?_eq_some_iff.mp hhead
        exact absurd (hends '>' bs rfl) (by decide)
      | cons d ds => exact harrow rfl hhead
    · rintro rfl ⟨left, hleft⟩
      match cs with
      | [] => exact absurd (hends '.' _ hleft.symm) (by decide)
      | [d] => exact absurd (hends '.' left (List.cons.inj hleft.symm).2) (by decide)
      | d :: e :: ds =>
        obtain ⟨rfl, htail⟩ := List.cons.inj hleft
        obtain ⟨rfl, _⟩ := List.cons.inj htail
        exact hdots rfl (List.prefix_append ['.', '.'] ds)

/-! ## Printing with blanks between -/

/-- A token starts with no blank and with no comment, so nothing before it is skipped. -/
theorem skipTrivia_of_scans {l : Lexeme} (h : l.Scans) {tail : List Char}
    (ht : l.kind.EndsBefore tail) :
    skipTrivia (l.text.toList ++ tail) = .ok (l.text.toList ++ tail) := by
  obtain ⟨c, cs, hcs, hblank, hscan⟩ := h
  have hslash : c = '/' → l.kind = .punct '/' ∧ cs = [] := by
    intro hc
    subst hc
    have hs : scanToken '/' cs = .ok (.punct '/', cs) := rfl
    rw [hs] at hscan
    obtain ⟨hkind, hcs⟩ := Prod.mk.inj (Except.ok.inj hscan)
    exact ⟨hkind.symm, hcs⟩
  rw [hcs, List.cons_append, skipTrivia, if_neg (by rw [hblank]; exact Bool.false_ne_true)]
  · intro cs' hc he
    rw [(hslash hc).2, List.nil_append] at he
    exact absurd ((hslash hc).1 ▸ ht '/' cs' he) (by decide)
  · intro cs' hc he
    rw [(hslash hc).2, List.nil_append] at he
    exact absurd ((hslash hc).1 ▸ ht '*' cs' he) (by decide)

/-- What was read before a rest is what stands before it. -/
theorem readPart_append (as bs : List Char) : readPart (as ++ bs) bs = String.ofList as := by
  unfold readPart
  rw [List.length_append, Nat.add_sub_cancel, List.take_left]

/-- **One token is scanned**, and the others are those of the rest. -/
theorem tokensFrom_eq_map {offset : Nat} {c : Char} {body : List Char} {t : Token}
    (hs : skipTrivia cs = .ok (c :: body)) (ht : scanToken c body = .ok (t.kind, rest))
    (htrivia : readPart cs (c :: body) = t.trivia) (htext : readPart (c :: body) rest = t.text)
    (hstart : offset + byteLength t.trivia.toList = t.start) :
    tokensFrom offset cs = (tokensFrom t.stop rest).map (t :: ·) := by
  obtain ⟨kind, trivia, text, start⟩ := t
  dsimp only at htrivia htext hstart ht
  subst htrivia htext hstart
  rw [tokensFrom]
  split
  · rename_i hf
    rw [hs] at hf
    cases hf
  · rename_i hf
    rw [hs] at hf
    cases hf
  · rename_i hf
    rw [hs] at hf
    cases hf
    split
    · rename_i hf
      rw [ht] at hf
      cases hf
    · rename_i hf
      rw [ht] at hf
      cases hf
      dsimp only
      split <;> rename_i hrest <;> rw [hrest] <;> rfl

theorem tokensFrom_step {offset : Nat} {c : Char} {body : List Char} {t : Token} {ts : List Token}
    (hs : skipTrivia cs = .ok (c :: body)) (ht : scanToken c body = .ok (t.kind, rest))
    (htrivia : readPart cs (c :: body) = t.trivia) (htext : readPart (c :: body) rest = t.text)
    (hstart : offset + byteLength t.trivia.toList = t.start)
    (hts : tokensFrom t.stop rest = .ok ts) : tokensFrom offset cs = .ok (t :: ts) := by
  rw [tokensFrom_eq_map hs ht htrivia htext hstart, hts]
  rfl

/-- An empty text has the end token alone. -/
theorem tokensFrom_nil (offset : Nat) :
    tokensFrom offset [] = .ok [⟨.endOfText, "", "", offset⟩] := by
  have hs : skipTrivia [] = .ok [] := by rw [skipTrivia]
  rw [tokensFrom]
  split
  · rename_i hf
    rw [hs] at hf
    cases hf
  · rfl
  · rename_i hf
    rw [hs] at hf
    cases hf

/-- **The next lexeme is scanned**, what is skipped before it being its trivia. -/
theorem tokensFrom_lexeme_eq {l : Lexeme} (h : l.Scans) {trivia tail : List Char}
    (hskip : skipTrivia (trivia ++ (l.text.toList ++ tail)) = .ok (l.text.toList ++ tail))
    (ht : l.kind.EndsBefore tail) (offset : Nat) :
    tokensFrom offset (trivia ++ (l.text.toList ++ tail))
      = (tokensFrom (offset + byteLength trivia + byteLength l.text.toList) tail).map
          (⟨l.kind, String.ofList trivia, l.text, offset + byteLength trivia⟩ :: ·) := by
  obtain ⟨c, cs, hcs, _, hscan⟩ := h
  have hscan : scanToken c (cs ++ tail) = .ok (l.kind, tail) := scanToken_append hscan ht
  have hbody : l.text.toList ++ tail = c :: (cs ++ tail) := by rw [hcs, List.cons_append]
  rw [hbody] at hskip ⊢
  refine tokensFrom_eq_map hskip hscan (readPart_append _ _) ?_ ?_
  · rw [← hbody, readPart_append, String.ofList_toList]
  · rw [String.toList_ofList]

theorem tokensFrom_lexeme {l : Lexeme} (h : l.Scans) {trivia tail : List Char}
    (hskip : skipTrivia (trivia ++ (l.text.toList ++ tail)) = .ok (l.text.toList ++ tail))
    (ht : l.kind.EndsBefore tail) {offset : Nat} {ts : List Token}
    (hts : tokensFrom (offset + byteLength trivia + byteLength l.text.toList) tail = .ok ts) :
    tokensFrom offset (trivia ++ (l.text.toList ++ tail))
      = .ok (⟨l.kind, String.ofList trivia, l.text, offset + byteLength trivia⟩ :: ts) := by
  rw [tokensFrom_lexeme_eq h hskip ht, hts]
  rfl

/-- **A lexeme that scans is a token**, and alone in a text it is the only one. -/
theorem Lexeme.Scans.tokenize_eq {l : Lexeme} (h : l.Scans) :
    tokenize l.text = .ok [⟨l.kind, "", l.text, 0⟩,
      ⟨.endOfText, "", "", byteLength l.text.toList⟩] := by
  have hskip := skipTrivia_of_scans h l.kind.endsBefore_nil
  have ht := @tokensFrom_lexeme l h [] [] hskip l.kind.endsBefore_nil 0 _ (tokensFrom_nil _)
  rw [List.nil_append, List.append_nil, byteLength_nil, Nat.zero_add, Nat.zero_add] at ht
  exact tokenize_eq_ok.mpr ht

/-- **The characters of lexemes**, a blank before each. -/
def spaced (ls : List Lexeme) : List Char := ls.flatMap fun l => ' ' :: l.text.toList

theorem endsBefore_spaced (kind : TokenKind) (ls : List Lexeme) :
    kind.EndsBefore (spaced ls) := by
  cases ls with
  | nil => exact kind.endsBefore_nil
  | cons l ls => exact kind.endsBefore_blank _

/-- A token after a single blank, or the end of a text right after the last token. -/
def Token.Spaced (t : Token) : Prop := t.trivia = " " ∨ (t.isEnd = true ∧ t.trivia = "")

/-- **Lexemes that scan are scanned one by one.** -/
theorem exists_tokensFrom_spaced {ls : List Lexeme} (h : ∀ l ∈ ls, l.Scans) (offset : Nat) :
    ∃ ts, tokensFrom offset (spaced ls) = .ok ts ∧ ts.map Token.lexeme = ls ++ [.ending]
      ∧ ∀ t ∈ ts, t.Spaced := by
  induction ls generalizing offset with
  | nil =>
    refine ⟨_, tokensFrom_nil offset, rfl, fun t ht => ?_⟩
    rw [List.mem_singleton.mp ht]
    exact .inr ⟨rfl, rfl⟩
  | cons l ls ih =>
    obtain ⟨hl, hls⟩ := List.forall_mem_cons.mp h
    obtain ⟨ts, hts, hmap, hspaced⟩ := ih hls (offset + 1 + byteLength l.text.toList)
    have hskip : skipTrivia ([' '] ++ (l.text.toList ++ spaced ls))
        = .ok (l.text.toList ++ spaced ls) := by
      rw [List.singleton_append, skipTrivia, if_pos (by decide)]
      · exact skipTrivia_of_scans hl (endsBefore_spaced _ ls)
      · exact fun _ he _ => absurd he (by decide)
      · exact fun _ he _ => absurd he (by decide)
    refine ⟨_, tokensFrom_lexeme hl hskip (endsBefore_spaced _ ls) hts, ?_, ?_⟩
    · rw [List.map_cons, hmap]
      rfl
    · exact List.forall_mem_cons.mpr ⟨.inl rfl, hspaced⟩

/-- **Lexemes as a text**: their characters with single blanks between them. -/
def printed (ls : List Lexeme) : String := " ".intercalate (ls.map Lexeme.text)

theorem toList_printed (l : Lexeme) (ls : List Lexeme) :
    (printed (l :: ls)).toList = l.text.toList ++ spaced ls := by
  induction ls generalizing l with
  | nil =>
    rw [printed, List.map_singleton, String.intercalate_singleton]
    exact (List.append_nil _).symm
  | cons m ls ih =>
    have hp : printed (l :: m :: ls) = l.text ++ " " ++ printed (m :: ls) := by
      rw [printed, List.map_cons, List.map_cons, String.intercalate_cons_cons]
      rfl
    rw [hp, String.toList_append, String.toList_append, ih, List.append_assoc]
    rfl

/-- **Printed lexemes are scanned again**: the tokens of the text are the lexemes, all but
the first one after a single blank, and the end token. -/
theorem exists_tokenize_printed {ls : List Lexeme} (h : ∀ l ∈ ls, l.Scans) :
    ∃ t ts, tokenize (printed ls) = .ok (t :: ts) ∧ (t :: ts).map Token.lexeme = ls ++ [.ending]
      ∧ t.trivia = "" ∧ ∀ u ∈ ts, u.Spaced := by
  cases ls with
  | nil =>
    exact ⟨⟨.endOfText, "", "", 0⟩, [], tokenize_eq_ok.mpr (tokensFrom_nil 0), rfl, rfl,
      fun _ h => absurd h List.not_mem_nil⟩
  | cons l ls =>
    obtain ⟨hl, hls⟩ := List.forall_mem_cons.mp h
    obtain ⟨ts, hts, hmap, hspaced⟩ := exists_tokensFrom_spaced hls
      (0 + byteLength [] + byteLength l.text.toList)
    have ht := @tokensFrom_lexeme l hl [] _ (skipTrivia_of_scans hl (endsBefore_spaced _ ls))
      (endsBefore_spaced _ ls) 0 ts hts
    rw [List.nil_append, ← toList_printed] at ht
    refine ⟨⟨l.kind, "", l.text, 0⟩, ts, tokenize_eq_ok.mpr ht, ?_, rfl, hspaced⟩
    rw [List.map_cons, hmap]
    rfl

end TypeTest
