import TypeTest.Proofs.Parsing.TokenOrder

/-!
# Tokens spell their text

A scanning function leaves an end of the text it was given (`List.IsSuffix`), so what it
read is the part of the text before that end. The tokens of a text are therefore pieces
of it: each token's own characters stand in the text at the token's offset. In
particular the offsets at which tokens start and stop are **boundaries**, places between
two characters, which a range of bytes has to respect to be a slice of the text.
-/

namespace TypeTest

/-! ## Boundaries -/

/-- **An offset between two characters** of a text, or at one of its ends. -/
def IsBoundary (cs : List Char) (offset : Nat) : Prop :=
  ∃ before after, cs = before ++ after ∧ byteLength before = offset

theorem isBoundary_zero (cs : List Char) : IsBoundary cs 0 := ⟨[], cs, rfl, rfl⟩

theorem isBoundary_byteLength (cs : List Char) : IsBoundary cs (byteLength cs) :=
  ⟨cs, [], (List.append_nil cs).symm, rfl⟩

theorem IsBoundary.le {cs : List Char} {offset : Nat} (h : IsBoundary cs offset) :
    offset ≤ byteLength cs := by
  obtain ⟨before, after, rfl, rfl⟩ := h
  rw [byteLength_append]
  exact Nat.le_add_right _ _

/-- **A range that is a slice of a text.** -/
structure TextRange.SliceOf (r : TextRange) (cs : List Char) : Prop where
  start : IsBoundary cs r.start
  stop : IsBoundary cs r.stop
  inside : r.start + r.length ≤ byteLength cs

/-- **A slice of a text** has some text before it and some after it. -/
theorem TextRange.SliceOf.exists_append {r : TextRange} {cs : List Char} (h : r.SliceOf cs) :
    ∃ before inside after, cs = before ++ (inside ++ after) ∧ byteLength before = r.start
      ∧ byteLength inside = r.length := by
  obtain ⟨before, rest, rfl, hstart⟩ := h.start
  obtain ⟨upTo, after, he, hstop⟩ := h.stop
  unfold TextRange.stop at hstop
  rcases List.append_eq_append_iff.mp he with ⟨inside, rfl, rfl⟩ | ⟨inside, rfl, rfl⟩
  · rw [byteLength_append] at hstop
    exact ⟨before, inside, after, rfl, hstart, by omega⟩
  · -- the range is empty
    rw [byteLength_append] at hstart
    exact ⟨upTo ++ inside, [], rest, rfl, by rw [byteLength_append]; omega,
      by rw [byteLength_nil]; omega⟩

/-- A text has one beginning of each length. -/
theorem append_inj_of_byteLength {as bs cs ds : List Char} (h : as ++ cs = bs ++ ds)
    (hl : byteLength as = byteLength bs) : as = bs ∧ cs = ds := by
  have has : takeBytes (byteLength bs) (bs ++ ds) = as := by
    rw [← h, ← hl, takeBytes_byteLength_append]
  rw [takeBytes_byteLength_append] at has
  exact ⟨has.symm, List.append_cancel_left (has ▸ h)⟩

/-! ## What is left is an end of the text -/

variable {opening cs v rest : List Char}

theorem afterComment_suffix (h : afterComment cs = some rest) : rest <:+ cs := by
  fun_induction afterComment cs with
  | case1 => cases h
  | case2 cs =>
    obtain rfl := Option.some.inj h
    exact (List.suffix_cons _ _).trans (List.suffix_cons _ _)
  | case3 c cs _ ih => exact (ih h).trans (List.suffix_cons _ _)

theorem skipTrivia_suffix (h : skipTrivia cs = .ok rest) : rest <:+ cs := by
  fun_induction skipTrivia cs with
  | case1 =>
    cases h
    exact List.suffix_refl _
  | case2 cs ih =>
    have hline := (ih h).trans (List.dropWhile_suffix _)
    exact (hline.trans (List.suffix_cons _ _)).trans (List.suffix_cons _ _)
  | case3 cs r hr ih =>
    have hblock := (ih h).trans (afterComment_suffix hr)
    exact (hblock.trans (List.suffix_cons _ _)).trans (List.suffix_cons _ _)
  | case4 => cases h
  | case5 c cs _ _ _ ih => exact (ih h).trans (List.suffix_cons _ _)
  | case6 =>
    cases h
    exact List.suffix_refl _

theorem readHex_suffix {count value : Nat} (h : readHex opening count value cs = .ok (v, rest)) :
    rest <:+ cs := by
  fun_induction readHex opening count value cs with
  | case1 =>
    cases h
    exact List.suffix_refl _
  | case2 => cases h
  | case3 => cases h
  | case4 count value c cs d hd ih => exact (ih h).trans (List.suffix_cons _ _)
  | case5 => cases h

theorem readBraced_suffix (h : readBraced opening cs = .ok (v, rest)) : rest <:+ cs := by
  have hd := List.dropWhile_suffix (l := cs) fun c => (hexValue c).isSome
  simp only [readBraced] at h
  split at h
  · rename_i hr
    cases h
    rw [hr] at hd
    exact (List.suffix_cons _ _).trans hd
  · cases h
  · cases h

theorem readEscape_suffix (h : readEscape opening cs = .ok (v, rest)) : rest <:+ cs := by
  unfold readEscape at h
  split at h
  · cases h
  · cases h
    exact List.suffix_cons _ _
  · exact (readHex_suffix h).trans (List.suffix_cons _ _)
  · exact ((readBraced_suffix h).trans (List.suffix_cons _ _)).trans (List.suffix_cons _ _)
  · exact (readHex_suffix h).trans (List.suffix_cons _ _)
  · cases h
    exact List.suffix_cons _ _

theorem readString_suffix {quote : Char} (h : readString opening quote cs = .ok (v, rest)) :
    rest <:+ cs := by
  fun_induction readString opening quote cs generalizing v rest with
  | case1 => cases h
  | case2 => cases h
  | case3 => cases h
  | case4 => cases h
  | case5 cs v' r hr m r' hm ih =>
    cases h
    exact ((ih hm).trans (readEscape_suffix hr)).trans (List.suffix_cons _ _)
  | case6 =>
    cases h
    exact List.suffix_cons _ _
  | case7 => cases h
  | case8 c cs _ _ _ m r hm ih =>
    cases h
    exact (ih hm).trans (List.suffix_cons _ _)

theorem readTemplate_suffix {depth : Nat} {v : TemplateValue}
    (h : readTemplate opening depth cs = .ok (v, rest)) : rest <:+ cs := by
  fun_induction readTemplate opening depth cs generalizing v rest with
  | case1 => cases h
  | case2 =>
    cases h
    exact List.suffix_cons _ _
  | case3 => cases h
  | case4 => cases h
  | case5 cs v' r hr m r' hm ih =>
    cases h
    exact ((ih hm).trans (readEscape_suffix hr)).trans (List.suffix_cons _ _)
  | case6 => cases h
  | case7 cs m r hm ih =>
    cases h
    exact ((ih hm).trans (List.suffix_cons _ _)).trans (List.suffix_cons _ _)
  | case8 => cases h
  | case9 =>
    rename_i hm ih
    cases h
    exact (ih hm).trans (List.suffix_cons _ _)

/-- **A token is the beginning** of the text it was scanned from. -/
theorem scanToken_suffix {c : Char} {kind : TokenKind} (h : scanToken c cs = .ok (kind, rest)) :
    rest <:+ cs := by
  cases scanToken_eq_ok_iff.mp h with
  | name | number => exact List.dropWhile_suffix _
  | string _ h => exact readString_suffix h
  | template _ h => exact readTemplate_suffix h
  | arrow _ hcs => exact hcs ▸ List.suffix_cons _ _
  | ellipsis _ hcs => exact ⟨['.', '.'], hcs.symm⟩
  | mark => exact List.suffix_refl _

/-- What was read and what is left are the text. -/
theorem toList_readPart_append (h : rest <:+ cs) : (readPart cs rest).toList ++ rest = cs := by
  obtain ⟨before, rfl⟩ := h
  rw [readPart, String.toList_ofList, List.length_append, Nat.add_sub_cancel, List.take_left]

/-! ## Tokens are pieces of the text -/

/-- **A token stands in a text**, which itself starts at `offset`: its characters are
found at its own offset. -/
def Token.StandsIn (offset : Nat) (cs : List Char) (t : Token) : Prop :=
  ∃ before after, cs = before ++ (t.text.toList ++ after) ∧ t.start = offset + byteLength before

/-- What stands in the rest of a text stands in the text. -/
theorem Token.StandsIn.of_append {offset : Nat} {t : Token} {before : List Char}
    (h : t.StandsIn (offset + byteLength before) cs) : t.StandsIn offset (before ++ cs) := by
  obtain ⟨between, after, rfl, hstart⟩ := h
  refine ⟨before ++ between, after, (List.append_assoc _ _ _).symm, ?_⟩
  rw [hstart, byteLength_append, Nat.add_assoc]

/-- **Tokens start and stop at boundaries.** -/
theorem Token.StandsIn.isBoundary {t : Token} (h : t.StandsIn 0 cs) :
    IsBoundary cs t.start ∧ IsBoundary cs t.stop := by
  obtain ⟨before, after, rfl, hstart⟩ := h
  rw [Nat.zero_add] at hstart
  refine ⟨⟨before, _, rfl, hstart.symm⟩, before ++ t.text.toList, after, ?_, ?_⟩
  · rw [List.append_assoc]
  · rw [byteLength_append, ← hstart]
    rfl

/-- **The tokens of a text stand in it.** -/
theorem standsIn_tokensFrom {offset : Nat} {ts : List Token} (h : tokensFrom offset cs = .ok ts) :
    ∀ t ∈ ts, t.StandsIn offset cs := by
  fun_induction tokensFrom offset cs generalizing ts with
  | case1 => cases h
  | case2 offset cs hs =>
    cases h
    intro t ht
    rw [List.mem_singleton.mp ht]
    exact ⟨cs, [], (List.append_nil cs).symm, rfl⟩
  | case3 => cases h
  | case4 => cases h
  | case5 offset cs c body hs kind rest hk trivia text token more hm =>
    rename_i ih
    cases h
    have hcs : trivia.toList ++ (text.toList ++ rest) = cs := by
      have htext : text.toList ++ rest = c :: body :=
        toList_readPart_append ((scanToken_suffix hk).trans (List.suffix_cons _ _))
      rw [htext]
      exact toList_readPart_append (skipTrivia_suffix hs)
    rw [List.forall_mem_cons, ← hcs]
    refine ⟨⟨trivia.toList, rest, rfl, rfl⟩, fun t ht => ?_⟩
    have hrest : t.StandsIn (offset + byteLength trivia.toList + byteLength text.toList) rest :=
      ih hm t ht
    exact hrest.of_append.of_append

/-- **The tokens of a text stand in it.** -/
theorem standsIn_tokenize {text : String} {ts : List Token} (h : tokenize text = .ok ts) :
    ∀ t ∈ ts, t.StandsIn 0 text.toList :=
  standsIn_tokensFrom (tokenize_eq_ok.mp h)

/-! ## Where tokens begin -/

/-- What is left behind blanks and comments does not start with a blank. -/
theorem isBlank_of_skipTrivia {c : Char} (h : skipTrivia cs = .ok (c :: rest)) :
    isBlank c = false := by
  fun_induction skipTrivia cs with
  | case1 => cases h
  | case2 cs ih => exact ih h
  | case3 cs r hr ih => exact ih h
  | case4 => cases h
  | case5 c cs _ _ _ ih => exact ih h
  | case6 c cs _ _ hc =>
    cases h
    exact Bool.eq_false_iff.mpr hc

/-- **A token begins with a character that is no blank**, or is the end token and stands at the
end of the text. -/
theorem exists_first_of_mem_tokensFrom {offset : Nat} {ts : List Token}
    (h : tokensFrom offset cs = .ok ts) :
    ∀ t ∈ ts, (∃ c more, t.text.toList = c :: more ∧ isBlank c = false)
      ∨ t.start = offset + byteLength cs := by
  fun_induction tokensFrom offset cs generalizing ts with
  | case1 => cases h
  | case2 offset cs hs =>
    cases h
    intro t ht
    rw [List.mem_singleton.mp ht]
    exact .inr rfl
  | case3 => cases h
  | case4 => cases h
  | case5 offset cs c body hs kind rest hk trivia text token more hm =>
    rename_i ih
    cases h
    have htext : text.toList ++ rest = c :: body :=
      toList_readPart_append ((scanToken_suffix hk).trans (List.suffix_cons _ _))
    have hcs : trivia.toList ++ (text.toList ++ rest) = cs := by
      rw [htext]
      exact toList_readPart_append (skipTrivia_suffix hs)
    rw [List.forall_mem_cons]
    refine ⟨.inl ?_, fun t ht => (ih hm t ht).imp id fun he => ?_⟩
    · show ∃ d more, text.toList = d :: more ∧ isBlank d = false
      cases hl : text.toList with
      | nil =>
        -- something was read, so the rest is shorter
        rw [hl, List.nil_append] at htext
        have hshort := scanToken_length hk
        rw [htext, List.length_cons] at hshort
        omega
      | cons d more =>
        rw [hl, List.cons_append] at htext
        obtain ⟨rfl, _⟩ := List.cons.inj htext
        exact ⟨d, more, rfl, isBlank_of_skipTrivia hs⟩
    · rw [he, ← hcs, byteLength_append, byteLength_append, ← Nat.add_assoc, ← Nat.add_assoc]
      rfl

end TypeTest
