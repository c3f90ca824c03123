import TypeTest.Proofs.Parsing.JoinedTokens
import TypeTest.Script.Grammar.TypeText

/-!
# Runs of tokens cut out of a text

A scanning function does not see how far the text goes on behind what it reads: what it
**left unread** may be shortened, and it reads the same (the lemmas `…_of_append`, which go
the other way than those by which a text may go on). So a run of tokens of a text, cut out
of it from the first character of the first token to the last one of the last, is scanned
again as that run, and so is the text of a type, which is such a run
(`exists_tokenize_spelling`). No offset has a part in this, since a token does not depend on
where it stands.
-/

namespace TypeTest

open TypeTest.Parser

variable {opening opening' cs v rest more : List Char} {offset : Nat} {ts us : List Token}

/-! ## What is left unread may be shortened -/

/-- The first character was read, so it is no part of what comes after. -/
theorem exists_cons_of_append {c : Char} {all : List Char} (h : cs ++ more = c :: all)
    (hle : (rest ++ more).length ≤ all.length) : ∃ cs', cs = c :: cs' ∧ all = cs' ++ more := by
  cases cs with
  | nil =>
    rw [List.nil_append] at h
    rw [h, List.length_append, List.length_cons] at hle
    omega
  | cons d cs =>
    obtain ⟨rfl, rfl⟩ := List.cons.inj h
    exact ⟨cs, rfl, rfl⟩

theorem afterComment_of_append (h : afterComment (cs ++ more) = some (rest ++ more)) :
    afterComment cs = some rest := by
  generalize hall : cs ++ more = all at h
  fun_induction afterComment all generalizing cs with
  | case1 => cases h
  | case2 all =>
    obtain rfl := Option.some.inj h
    obtain ⟨cs, rfl, hcs⟩ := exists_cons_of_append hall (Nat.le_succ _)
    obtain ⟨cs, rfl, hcs'⟩ := exists_cons_of_append hcs.symm (Nat.le_refl _)
    rw [afterComment, List.append_cancel_right hcs']
  | case3 c all hne ih =>
    obtain ⟨cs, rfl, rfl⟩ := exists_cons_of_append hall (Nat.le_of_lt (afterComment_length h))
    rw [afterComment]
    · exact ih rfl h
    · exact fun ds hc hds => hne (ds ++ more) hc (by rw [hds]; rfl)

theorem readHex_of_append {count value : Nat}
    (h : readHex opening count value (cs ++ more) = .ok (v, rest ++ more)) :
    readHex opening' count value cs = .ok (v, rest) := by
  generalize hall : cs ++ more = all at h
  fun_induction readHex opening count value all generalizing cs with
  | case1 value all c hc =>
    obtain ⟨rfl, rfl⟩ := Prod.mk.inj (Except.ok.inj h)
    rw [readHex, hc, List.append_cancel_right hall]
  | case2 => cases h
  | case3 => cases h
  | case4 count value c all d hd ih =>
    obtain ⟨cs, rfl, rfl⟩ := exists_cons_of_append hall (readHex_length h)
    rw [readHex, hd]
    exact ih rfl h
  | case5 => cases h

theorem dropWhile_of_append {p : Char → Bool} (h : (cs ++ more).dropWhile p = rest ++ more) :
    cs.dropWhile p = rest := by
  rw [List.dropWhile_append] at h
  split at h
  · rename_i hnil
    have hle := (List.dropWhile_suffix (l := more) p).length_le
    rw [h, List.length_append] at hle
    rw [List.isEmpty_iff.mp hnil, List.eq_nil_of_length_eq_zero (by omega : rest.length = 0)]
  · exact List.append_cancel_right h

theorem readBraced_of_append (h : readBraced opening (cs ++ more) = .ok (v, rest ++ more)) :
    readBraced opening' cs = .ok (v, rest) := by
  unfold readBraced at h ⊢
  dsimp only at h ⊢
  split at h
  · rename_i c left hpoint hdrop
    obtain ⟨rfl, rfl⟩ := Prod.mk.inj (Except.ok.inj h)
    have hdrop' : cs.dropWhile (fun c => (hexValue c).isSome) = '\x7d' :: rest :=
      dropWhile_of_append hdrop
    have htake : (cs ++ more).takeWhile (fun c => (hexValue c).isSome)
        = cs.takeWhile fun c => (hexValue c).isSome := by
      refine @List.append_cancel_right _ _ ('\x7d' :: (rest ++ more)) _ ?_
      rw [← hdrop, List.takeWhile_append_dropWhile, hdrop, ← List.cons_append, ← hdrop',
        ← List.append_assoc, List.takeWhile_append_dropWhile]
    rw [← htake, hpoint, hdrop']
    rfl
  · cases h
  · cases h

theorem readEscape_of_append (h : readEscape opening (cs ++ more) = .ok (v, rest ++ more)) :
    readEscape opening' cs = .ok (v, rest) := by
  have hlength := readEscape_length h
  generalize hall : cs ++ more = all at h hlength
  unfold readEscape at h
  split at h
  · cases h
  · obtain ⟨cs, rfl, hcs⟩ := exists_cons_of_append hall (Nat.le_of_lt_succ hlength)
    obtain ⟨rfl, rfl⟩ := Prod.mk.inj (Except.ok.inj h)
    rw [readEscape, List.append_cancel_right hcs]
  · obtain ⟨cs, rfl, rfl⟩ := exists_cons_of_append hall (Nat.le_of_lt_succ hlength)
    rw [readEscape]
    exact readHex_of_append h
  · obtain ⟨cs, rfl, hcs⟩ := exists_cons_of_append hall (Nat.le_of_lt_succ hlength)
    obtain ⟨cs, rfl, rfl⟩ := exists_cons_of_append hcs.symm (readBraced_length h)
    rw [readEscape]
    exact readBraced_of_append h
  · rename_i all hbrace
    obtain ⟨cs, rfl, rfl⟩ := exists_cons_of_append hall (Nat.le_of_lt_succ hlength)
    rw [readEscape]
    · exact readHex_of_append h
    · exact fun ds hds => hbrace (ds ++ more) (by rw [hds]; rfl)
  · rename_i d all hn hx hb hu
    obtain ⟨cs, rfl, hcs⟩ := exists_cons_of_append hall (Nat.le_of_lt_succ hlength)
    obtain ⟨rfl, rfl⟩ := Prod.mk.inj (Except.ok.inj h)
    rw [readEscape, List.append_cancel_right hcs]
    · exact hn
    · exact hx
    · exact fun _ hc _ => hu hc
    · exact hu

theorem readString_of_append {quote : Char}
    (h : readString opening quote (cs ++ more) = .ok (v, rest ++ more)) :
    readString opening' quote cs = .ok (v, rest) := by
  generalize hall : cs ++ more = all at h
  fun_induction readString opening quote all generalizing cs v with
  | case1 => cases h
  | case2 => cases h
  | case3 => cases h
  | case4 => cases h
  | case5 all value left hr m left' hm ih =>
    cases h
    obtain ⟨cs, rfl, rfl⟩ := exists_cons_of_append hall
      (Nat.le_of_lt (Nat.lt_trans (readString_length hm) (readEscape_length hr)))
    obtain ⟨mid, rfl⟩ := readString_suffix hm
    rw [← List.append_assoc] at hr hm ih
    have he := @readEscape_of_append _ opening' _ _ _ _ hr
    rw [readString]
    split
    · rename_i hf
      cases hf.symm.trans he
    · rename_i hf
      cases hf.symm.trans he
      rw [ih rfl hm]
  | case6 c all hn hb hq =>
    obtain ⟨rfl, rfl⟩ := Prod.mk.inj (Except.ok.inj h)
    obtain ⟨cs, rfl, hcs⟩ := exists_cons_of_append hall (Nat.le_refl _)
    rw [readString, if_pos hq, List.append_cancel_right hcs]
    · exact hn
    · exact hb
  | case7 => cases h
  | case8 c all hn hb hq m left hm ih =>
    cases h
    obtain ⟨cs, rfl, rfl⟩ := exists_cons_of_append hall (Nat.le_of_lt (readString_length hm))
    rw [readString, if_neg hq, ih rfl hm]
    · exact hn
    · exact hb

theorem readTemplate_of_append {depth : Nat} {v : TemplateValue}
    (h : readTemplate opening depth (cs ++ more) = .ok (v, rest ++ more)) :
    readTemplate opening' depth cs = .ok (v, rest) := by
  generalize hall : cs ++ more = all at h
  fun_induction readTemplate opening depth all generalizing cs v with
  | case1 => cases h
  | case2 all =>
    obtain ⟨rfl, rfl⟩ := Prod.mk.inj (Except.ok.inj h)
    obtain ⟨cs, rfl, hcs⟩ := exists_cons_of_append hall (Nat.le_refl _)
    rw [readTemplate, List.append_cancel_right hcs]
  | case3 => cases h
  | case4 => cases h
  | case5 all value left hr m left' hm ih =>
    cases h
    obtain ⟨cs, rfl, rfl⟩ := exists_cons_of_append hall
      (Nat.le_of_lt (Nat.lt_trans (readTemplate_length hm) (readEscape_length hr)))
    obtain ⟨mid, rfl⟩ := readTemplate_suffix hm
    rw [← List.append_assoc] at hr hm ih
    have he := @readEscape_of_append _ opening' _ _ _ _ hr
    rw [readTemplate]
    split
    · rename_i hf
      cases hf.symm.trans he
    · rename_i hf
      cases hf.symm.trans he
      rw [ih rfl hm]
  | case6 => cases h
  | case7 all m left hm ih =>
    cases h
    have hle := Nat.le_of_lt (readTemplate_length hm)
    obtain ⟨cs, rfl, hcs⟩ := exists_cons_of_append hall (Nat.le_succ_of_le hle)
    obtain ⟨cs, rfl, rfl⟩ := exists_cons_of_append hcs.symm hle
    rw [readTemplate, ih rfl hm]
  | case8 => cases h
  | case9 =>
    rename_i depth c all h₁ h₂ h₃ inside m left hm ih
    cases h
    obtain ⟨cs, rfl, rfl⟩ := exists_cons_of_append hall (Nat.le_of_lt (readTemplate_length hm))
    rw [readTemplate]
    · have hin := ih rfl hm
      simp only [inside, dite_eq_ite] at hin
      rw [hin]
    · exact h₁
    · exact h₂
    · exact fun ds hd hc hds => h₃ (ds ++ more) hd hc (by rw [hds]; rfl)

/-- **A token is scanned the same without the text that comes after** it. -/
theorem scanToken_of_append {c : Char} {kind : TokenKind}
    (h : scanToken c (cs ++ more) = .ok (kind, rest ++ more)) :
    scanToken c cs = .ok (kind, rest) := by
  refine scanToken_eq_ok_iff.mpr ?_
  generalize hleft : rest ++ more = left at h
  cases scanToken_eq_ok_iff.mp h with
  | name hc => exact dropWhile_of_append hleft.symm ▸ .name hc
  | number hname hc => exact dropWhile_of_append hleft.symm ▸ .number hname hc
  | string hc h =>
    subst hleft
    exact .string hc (readString_of_append h)
  | template hc h =>
    subst hleft
    exact .template hc (readTemplate_of_append h)
  | arrow hc hcs =>
    rw [← hleft, ← List.cons_append] at hcs
    exact .arrow hc (List.append_cancel_right hcs)
  | ellipsis hc hcs =>
    rw [← hleft, ← List.cons_append, ← List.cons_append] at hcs
    exact .ellipsis hc (List.append_cancel_right hcs)
  | mark hname hdigit hquote hc harrow hdots =>
    obtain rfl := List.append_cancel_right hleft
    refine .mark hname hdigit hquote hc (fun he hhead => harrow he ?_) fun he hdotted => ?_
    · rw [List.head?_append, hhead]
      rfl
    · exact hdots he (hdotted.trans (List.prefix_append rest more))

/-- **The same is skipped without the text that comes after** what is left. -/
theorem skipTrivia_of_append (h : skipTrivia (cs ++ more) = .ok (rest ++ more)) :
    skipTrivia cs = .ok rest := by
  generalize hall : cs ++ more = all at h
  fun_induction skipTrivia all generalizing cs with
  | case1 =>
    obtain ⟨rfl, rfl⟩ := List.append_eq_nil_iff.mp hall
    rw [List.append_nil] at h
    rw [skipTrivia]
    exact h
  | case2 all ih =>
    have hle := Nat.le_trans (skipTrivia_length h) (List.dropWhile_suffix (l := all) _).length_le
    obtain ⟨cs, rfl, hcs⟩ := exists_cons_of_append hall (Nat.le_succ_of_le hle)
    obtain ⟨cs, rfl, rfl⟩ := exists_cons_of_append hcs.symm hle
    obtain ⟨line, hline⟩ := (List.suffix_append rest more).trans (skipTrivia_suffix h)
    rw [skipTrivia, dropWhile_of_append hline.symm]
    exact ih hline h
  | case3 all left hleft ih =>
    have hle := Nat.le_trans (skipTrivia_length h) (Nat.le_of_lt (afterComment_length hleft))
    obtain ⟨cs, rfl, hcs⟩ := exists_cons_of_append hall (Nat.le_succ_of_le hle)
    obtain ⟨cs, rfl, rfl⟩ := exists_cons_of_append hcs.symm hle
    obtain ⟨inside, rfl⟩ := (List.suffix_append rest more).trans (skipTrivia_suffix h)
    have hinside := afterComment_of_append hleft
    rw [skipTrivia]
    split
    · rename_i hf
      cases hf.symm.trans hinside
      exact ih rfl h
    · rename_i hf
      cases hf.symm.trans hinside
  | case4 => cases h
  | case5 c all hline hblock hblank ih =>
    obtain ⟨cs, rfl, rfl⟩ := exists_cons_of_append hall (skipTrivia_length h)
    rw [skipTrivia, if_pos hblank]
    · exact ih rfl h
    · exact fun ds hc hds => hline (ds ++ more) hc (by rw [hds]; rfl)
    · exact fun ds hc hds => hblock (ds ++ more) hc (by rw [hds]; rfl)
  | case6 c all hline hblock hblank =>
    obtain rfl := List.append_cancel_right (hall.trans (Except.ok.inj h))
    cases cs with
    | nil => rw [skipTrivia]
    | cons d cs =>
      obtain ⟨rfl, rfl⟩ := List.cons.inj hall
      rw [skipTrivia, if_neg hblank]
      · exact fun ds hc hds => hline (ds ++ more) hc (by rw [hds]; rfl)
      · exact fun ds hc hds => hblock (ds ++ more) hc (by rw [hds]; rfl)

/-- Where nothing is left to be skipped, nothing is skipped. -/
theorem skipTrivia_of_skipped (h : skipTrivia cs = .ok rest) : skipTrivia rest = .ok rest := by
  fun_induction skipTrivia cs with
  | case1 =>
    cases h
    rw [skipTrivia]
  | case2 cs ih => exact ih h
  | case3 cs left hleft ih => exact ih h
  | case4 => cases h
  | case5 c cs _ _ _ ih => exact ih h
  | case6 c cs hline hblock hblank =>
    cases h
    rw [skipTrivia, if_neg hblank]
    · exact hline
    · exact hblock

/-! ## Runs of tokens -/

/-- **The first of several tokens** of a text: what is skipped before it, its characters, what
is left for the others, and where it starts. -/
theorem exists_first_of_tokensFrom {t : Token} (h : tokensFrom offset cs = .ok (t :: ts))
    (hne : ts ≠ []) :
    ∃ c body left, c :: body = t.text.toList ++ left ∧ cs = t.trivia.toList ++ c :: body
      ∧ skipTrivia cs = .ok (c :: body) ∧ scanToken c body = .ok (t.kind, left)
      ∧ tokensFrom t.stop left = .ok ts ∧ t.start = offset + byteLength t.trivia.toList := by
  unfold tokensFrom at h
  split at h
  · cases h
  · cases h
    exact absurd rfl hne
  · rename_i c body hs
    split at h
    · cases h
    · rename_i kind left hk
      dsimp only at h
      split at h
      · cases h
      · rename_i others hothers
        cases h
        have htext := toList_readPart_append ((scanToken_suffix hk).trans (List.suffix_cons c body))
        exact ⟨c, body, left, htext.symm, (toList_readPart_append (skipTrivia_suffix hs)).symm, hs,
          hk, hothers, rfl⟩

/-- **The first of several tokens scans** by its own characters. -/
theorem scans_of_tokensFrom {t : Token} (h : tokensFrom offset cs = .ok (t :: ts)) (hne : ts ≠ []) :
    t.lexeme.Scans := by
  obtain ⟨c, body, left, hbody, -, hskip, hscan, -⟩ := exists_first_of_tokensFrom h hne
  obtain ⟨own, htext, rfl⟩ :=
    @exists_cons_of_append _ [] left _ _ hbody.symm (scanToken_length hscan)
  exact ⟨c, own, htext, isBlank_of_skipTrivia hskip, @scanToken_of_append _ [] left _ _ hscan⟩

/-- Tokens before others scan. -/
theorem scans_of_mem_tokensFrom (h : tokensFrom offset cs = .ok (ts ++ us)) (hne : us ≠ []) :
    ∀ t ∈ ts, t.lexeme.Scans := by
  induction ts generalizing offset cs with
  | nil => exact fun _ h => absurd h List.not_mem_nil
  | cons t ts ih =>
    have hne' := List.append_ne_nil_of_right_ne_nil ts hne
    obtain ⟨_, _, _, _, _, _, _, hrest, _⟩ := exists_first_of_tokensFrom h hne'
    exact List.forall_mem_cons.mpr ⟨scans_of_tokensFrom h hne', ih hrest⟩

/-- **A token is scanned again** where its text and what is left of the text are cut off behind
`rest`. -/
theorem tokensFrom_cut {c : Char} {body trivia : List Char} {t : Token}
    (hbody : c :: body = t.text.toList ++ (rest ++ more))
    (hskip : skipTrivia (trivia ++ c :: body) = .ok (c :: body))
    (hscan : scanToken c body = .ok (t.kind, rest ++ more)) {start : Nat}
    (hts : tokensFrom (start + byteLength trivia + byteLength t.text.toList) rest = .ok ts) :
    tokensFrom start (trivia ++ (t.text.toList ++ rest))
      = .ok (⟨t.kind, String.ofList trivia, t.text, start + byteLength trivia⟩ :: ts) := by
  rw [← List.append_assoc] at hbody
  obtain ⟨body, hcut, rfl⟩ := exists_cons_of_append hbody.symm (scanToken_length hscan)
  rw [← List.cons_append, ← List.append_assoc] at hskip
  rw [hcut]
  refine tokensFrom_step (skipTrivia_of_append hskip) (scanToken_of_append hscan)
    (readPart_append _ _) ?_ ?_ hts
  · rw [← hcut, readPart_append, String.ofList_toList]
  · rw [String.toList_ofList]

/-- **Tokens before others are cut off** with the text that they spell, and are scanned again,
at any offset. -/
theorem exists_tokensFrom_cut (h : tokensFrom offset cs = .ok (ts ++ us)) (hne : us ≠ []) :
    ∃ left, cs = characters (ts.map Token.piece) ++ left
      ∧ tokensFrom (offset + byteLength (characters (ts.map Token.piece))) left = .ok us
      ∧ ∀ start, ∃ vs, tokensFrom start (characters (ts.map Token.piece)) = .ok vs
        ∧ vs.map Token.piece = ts.map Token.piece ++ [⟨"", .ending⟩] := by
  induction ts generalizing offset cs with
  | nil => exact ⟨cs, rfl, h, fun start => ⟨_, tokensFrom_nil start, rfl⟩⟩
  | cons t ts ih =>
    obtain ⟨c, body, rest, hbody, rfl, hskip, hscan, hrest, hstart⟩ := exists_first_of_tokensFrom h
      (List.append_ne_nil_of_right_ne_nil ts hne)
    obtain ⟨left, rfl, hleft, hcut⟩ := ih hrest
    refine ⟨left, ?_, ?_, fun start => ?_⟩
    · rw [hbody, List.map_cons, characters_cons, List.append_assoc, List.append_assoc]
      rfl
    · rw [List.map_cons, characters_cons, byteLength_append, byteLength_append,
        ← Nat.add_assoc, ← Nat.add_assoc]
      rwa [Token.stop, hstart] at hleft
    · obtain ⟨vs, hvs, hmap⟩ := hcut (start + byteLength t.trivia.toList
        + byteLength t.text.toList)
      have hfirst := tokensFrom_cut hbody hskip hscan hvs
      rw [String.ofList_toList] at hfirst
      refine ⟨_, (characters_cons t.piece _).symm ▸ hfirst, ?_⟩
      rw [List.map_cons, hmap]
      rfl

/-- Tokens spell the characters of the first one, then all that the others are pieces of. -/
theorem toList_spelling_cons (t : Token) (ts : List Token) :
    (spelling (t :: ts)).toList = t.text.toList ++ characters (ts.map Token.piece) := by
  have hfold : ∀ (ts : List Token) (text : String),
      (ts.foldl (fun text u => text ++ u.trivia ++ u.text) text).toList
        = text.toList ++ characters (ts.map Token.piece) := by
    intro ts
    induction ts with
    | nil => exact fun text => (List.append_nil _).symm
    | cons u ts ih =>
      intro text
      rw [List.foldl_cons, ih, String.toList_append, String.toList_append, List.map_cons,
        characters_cons, List.append_assoc, List.append_assoc]
      rfl
  exact hfold ts t.text

/-- Tokens of the same pieces spell the same. -/
theorem spelling_eq_of_pieces {ts us : List Token}
    (h : ts.map Token.piece = us.map Token.piece) : spelling ts = spelling us := by
  cases ts with
  | nil =>
    rw [List.map_eq_nil_iff.mp h.symm]
  | cons t ts =>
    obtain ⟨u, us, rfl, hu, hus⟩ := List.map_eq_cons_iff.mp h.symm
    have htext : u.text = t.text := congrArg (fun p => p.lexeme.text) hu
    rw [← String.toList_inj, toList_spelling_cons, toList_spelling_cons, htext, hus]

/-- More tokens spell more characters. -/
theorem toList_spelling_append (hne : ts ≠ []) (us : List Token) :
    (spelling (ts ++ us)).toList = (spelling ts).toList ++ characters (us.map Token.piece) := by
  obtain ⟨t, ts, rfl⟩ := List.exists_cons_of_ne_nil hne
  rw [List.cons_append, toList_spelling_cons, toList_spelling_cons, List.map_append,
    characters_append, List.append_assoc]

/-- **A run of tokens is scanned again** from the text that it spells. -/
theorem exists_tokenize_spelling {text : String} {t : Token} {before : List Token}
    (h : tokenize text = .ok (before ++ t :: ts ++ us)) (hne : us ≠ []) :
    ∃ vs, tokenize (spelling (t :: ts)) = .ok vs
      ∧ vs.map Token.piece = ⟨"", t.lexeme⟩ :: ts.map Token.piece ++ [⟨"", .ending⟩] := by
  rw [List.append_assoc] at h
  obtain ⟨_, _, hfrom, _⟩ := exists_tokensFrom_cut (tokenize_eq_ok.mp h) (List.cons_ne_nil _ _)
  obtain ⟨c, body, rest, hbody, _, hskip, hscan, hrest, _⟩ := exists_first_of_tokensFrom hfrom
    (List.append_ne_nil_of_right_ne_nil ts hne)
  obtain ⟨left, rfl, _, hcut⟩ := exists_tokensFrom_cut hrest hne
  obtain ⟨vs, hvs, hmap⟩ := hcut (0 + byteLength [] + byteLength t.text.toList)
  have hfirst := @tokensFrom_cut _ _ _ _ _ [] _ hbody (skipTrivia_of_skipped hskip) hscan _ hvs
  rw [List.nil_append, ← toList_spelling_cons] at hfirst
  refine ⟨_, tokenize_eq_ok.mpr hfirst, ?_⟩
  rw [List.map_cons, hmap]
  rfl

/-- The last of several tokens stops where what they are pieces of does. -/
theorem stop_of_mem_getLast? {t : Token} (h : tokensFrom offset cs = .ok (ts ++ us)) (hne : us ≠ [])
    (ht : t ∈ ts.getLast?) : t.stop = offset + byteLength (characters (ts.map Token.piece)) := by
  induction ts generalizing offset cs with
  | nil => cases ht
  | cons u ts ih =>
    obtain ⟨_, _, left, _, _, _, _, hrest, hstart⟩ := exists_first_of_tokensFrom h
      (List.append_ne_nil_of_right_ne_nil ts hne)
    have hstop : u.stop
        = offset + byteLength u.trivia.toList + byteLength u.text.toList := by
      rw [Token.stop, hstart]
    rw [List.map_cons, characters_cons, byteLength_append, byteLength_append, ← Nat.add_assoc,
      ← Nat.add_assoc]
    show t.stop = offset + byteLength u.trivia.toList + byteLength u.text.toList
      + byteLength (characters (ts.map Token.piece))
    rw [← hstop]
    cases ts with
    | nil =>
      rw [← Option.some.inj ht]
      rfl
    | cons v ts => exact ih hrest (by rwa [List.getLast?_cons_cons] at ht)

/-- **What a run of tokens spells stands in the text**, from where the first token starts to
where the last one stops. -/
theorem exists_append_of_spelling {text : String} {t : Token} {before : List Token}
    (h : tokenize text = .ok (before ++ t :: ts ++ us)) (hne : us ≠ []) :
    ∃ prior after, text.toList = prior ++ ((spelling (t :: ts)).toList ++ after)
      ∧ byteLength prior = t.start
      ∧ ∀ last ∈ (t :: ts).getLast?,
        t.start + byteLength (spelling (t :: ts)).toList = last.stop := by
  rw [List.append_assoc] at h
  obtain ⟨_, htext, hfrom, _⟩ := exists_tokensFrom_cut (tokenize_eq_ok.mp h) (List.cons_ne_nil _ _)
  obtain ⟨c, body, rest, hbody, rfl, _, _, hrest, hstart⟩ := exists_first_of_tokensFrom hfrom
    (List.append_ne_nil_of_right_ne_nil ts hne)
  obtain ⟨left, rfl, _, _⟩ := exists_tokensFrom_cut hrest hne
  refine ⟨characters (before.map Token.piece) ++ t.trivia.toList, left, ?_, ?_,
    fun last hlast => ?_⟩
  · rw [htext, hbody, toList_spelling_cons, List.append_assoc, List.append_assoc]
  · rw [hstart, byteLength_append, Nat.zero_add]
  · rw [stop_of_mem_getLast? hfrom hne hlast, toList_spelling_cons, hstart, List.map_cons,
      characters_cons, byteLength_append, byteLength_append, byteLength_append]
    simp only [Nat.add_assoc]
    rfl

end TypeTest
