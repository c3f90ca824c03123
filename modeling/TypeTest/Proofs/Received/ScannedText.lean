import Mathlib.Data.List.TakeWhile
import TypeTest.Proofs.Parsing.Placement
import TypeTest.Proofs.Parsing.TokenRuns
import TypeTest.Proofs.Received.Nesting

/-!
# One argument, token by token

To the parser a type argument is a run of tokens, to the reader of arguments a run of characters.
The two agree on brackets and commas, and on where a string ends; a name or a number has no mark
in it. So a token other than a mark of one character is passed by the reader
(`TokenKind.Spelled.inert`), and such a mark counts for the reader as it does for the parser
(`depthAfter_punct`).

What only the scanner can tell apart is what stands between tokens, comments among it, and the
expressions put in a template. A **plain** text is one in which these are sealed, so that the
reader is after them where it was before, and which does not end in the middle of an arrow. By
induction on its tokens, each of which leads to the depth that the parser counts, a plain type
argument is read through (`Node.IsArgument.readThrough`).
-/

namespace TypeTest

open TypeTest.Parser TypeTest.TypeText TypeTest.TypeText.Nesting

variable {opening cs v rest : List Char} {quote c b : Char} {d : Nat}

/-! ## Characters of names and numbers -/

/-- The characters that are blank, as ranges of their numbers. -/
def allBlankRanges : List (Nat × Nat) := (0x20, 0x20) :: (0x9, 0xD) :: blankRanges

theorem exists_range_of_isBlank (hc : isBlank c = true) :
    ∃ r ∈ allBlankRanges, c.toNat ∈ List.range' r.1 (r.2 + 1 - r.1) := by
  have hrange : ∀ r ∈ allBlankRanges, r.1 ≤ c.toNat → c.toNat ≤ r.2 →
      ∃ r ∈ allBlankRanges, c.toNat ∈ List.range' r.1 (r.2 + 1 - r.1) :=
    fun r hr hlo hhi => ⟨r, hr, List.mem_range'_1.mpr ⟨hlo, by omega⟩⟩
  unfold isBlank at hc
  rcases Bool.or_eq_true_iff.mp hc with hc | hc
  · rcases Bool.or_eq_true_iff.mp hc with hc | hc
    · refine hrange _ List.mem_cons_self ?_ ?_ <;> rw [eq_of_beq hc] <;> decide
    · obtain ⟨hlo, hhi⟩ := Bool.and_eq_true_iff.mp hc
      refine hrange _ (List.mem_cons_of_mem _ List.mem_cons_self) ?_ ?_
      · exact UInt32.le_iff_toNat_le.mp (of_decide_eq_true hlo)
      · exact UInt32.le_iff_toNat_le.mp (of_decide_eq_true hhi)
  · obtain ⟨r, hr, hlo, hhi⟩ := (blankRanges.has_eq_true_iff c).mp hc
    exact hrange r (List.mem_cons_of_mem _ (List.mem_cons_of_mem _ hr)) hlo hhi

/-- **A class of characters that make words**: no character that means something to the reader
is one of them, and no blank. -/
structure MakesWords (p : Char → Bool) : Prop where
  marks : ('=' :: marks).any p = false
  blanks : ∀ r ∈ allBlankRanges, ∀ n ∈ List.range' r.1 (r.2 + 1 - r.1), ¬ p (Char.ofNat n)

theorem makesWords_isNamePart : MakesWords isNamePart := ⟨by decide +kernel, by decide +kernel⟩

theorem makesWords_isNumberPart : MakesWords isNumberPart := ⟨by decide +kernel, by decide +kernel⟩

namespace MakesWords

variable {p : Char → Bool} (hp : MakesWords p)

include hp

theorem notMem_marks (h : p c = true) : c ∉ '=' :: Nesting.marks :=
  fun hc => List.any_eq_false.mp hp.marks c hc h

theorem isBlank_eq_false (h : p c = true) : isBlank c = false := by
  refine Bool.eq_false_iff.mpr fun hc => ?_
  obtain ⟨r, hr, hmem⟩ := exists_range_of_isBlank hc
  exact hp.blanks r hr c.toNat hmem (by rwa [Char.ofNat_toNat])

end MakesWords

/-! ## Strings and templates -/

theorem isQuote_of_string (h : quote = '"' ∨ quote = '\'') : isQuote quote = true := by
  rcases h with rfl | rfl <;> rfl

/-- The digits of an escape. -/
theorem exists_of_readHex {count value : Nat}
    (h : readHex opening count value cs = .ok (v, rest)) :
    ∃ digits, cs = digits ++ rest ∧ ∀ c ∈ digits, (hexValue c).isSome = true := by
  fun_induction readHex opening count value cs with
  | case1 =>
    cases h
    exact ⟨[], rfl, fun _ h => absurd h List.not_mem_nil⟩
  | case2 => cases h
  | case3 => cases h
  | case4 count value c cs digit hdigit ih =>
    obtain ⟨digits, rfl, hdigits⟩ := ih h
    refine ⟨c :: digits, rfl, List.forall_mem_cons.mpr ⟨?_, hdigits⟩⟩
    rw [hdigit]
    rfl
  | case5 => cases h

/-- **The characters of an escape** after the first one neither quote nor escape. -/
theorem exists_of_readEscape (h : readEscape opening cs = .ok (v, rest)) :
    ∃ c escape, cs = c :: (escape ++ rest) ∧ ∀ e ∈ escape, e ≠ '\\' ∧ isQuote e = false := by
  have hplain : ∀ e : Char, (hexValue e).isSome = true → e ≠ '\\' ∧ isQuote e = false := by
    intro e he
    refine ⟨?_, Bool.eq_false_iff.mpr fun hq => ?_⟩
    · rintro rfl
      cases he
    · simp only [isQuote, Bool.or_eq_true, beq_iff_eq] at hq
      rcases hq with (rfl | rfl) | rfl <;> cases he
  unfold readEscape at h
  split at h
  · cases h
  · cases h
    exact ⟨'\n', [], rfl, fun _ h => absurd h List.not_mem_nil⟩
  · obtain ⟨digits, rfl, hdigits⟩ := exists_of_readHex h
    exact ⟨'x', digits, rfl, fun e he => hplain e (hdigits e he)⟩
  · rename_i cs
    unfold readBraced at h
    dsimp only at h
    split at h
    · rename_i hdrop
      cases h
      refine ⟨'u', '\x7b' :: (cs.takeWhile (fun c => (hexValue c).isSome) ++ ['\x7d']), ?_, ?_⟩
      · rw [List.cons_append, List.append_assoc, List.singleton_append, ← hdrop,
          List.takeWhile_append_dropWhile]
      · rw [List.forall_mem_cons, List.forall_mem_append, List.forall_mem_singleton]
        refine ⟨by decide, fun e he => ?_, by decide⟩
        exact hplain e (List.mem_takeWhile_imp (p := fun c => (hexValue c).isSome) he)
    · cases h
    · cases h
  · obtain ⟨digits, rfl, hdigits⟩ := exists_of_readHex h
    exact ⟨'u', digits, rfl, fun e he => hplain e (hdigits e he)⟩
  · cases h
    exact ⟨_, [], rfl, fun _ h => absurd h List.not_mem_nil⟩

/-- In a text in quotes nothing counts but the quote and the backslash. -/
theorem readAll_quoted_cons (hbackslash : c ≠ '\\') (hquote : c ≠ quote) (b : Char) (d : Nat)
    (cs : List Char) :
    readAll ⟨.inside quote false, b, d⟩ (c :: cs) = readAll ⟨.inside quote false, c, d⟩ cs := by
  rw [readAll_cons, read_inside, Quoting.next, beq_false_of_ne hbackslash,
    beq_false_of_ne hquote]
  rfl

theorem readAll_quoted_append (hes : ∀ e ∈ cs, e ≠ '\\' ∧ isQuote e = false)
    (hquote : isQuote quote = true) (b : Char) (d : Nat) :
    ∃ b', ∀ more, readAll ⟨.inside quote false, b, d⟩ (cs ++ more)
      = readAll ⟨.inside quote false, b', d⟩ more := by
  induction cs generalizing b with
  | nil => exact ⟨b, fun _ => rfl⟩
  | cons c cs ih =>
    obtain ⟨⟨hbackslash, hc⟩, hcs⟩ := List.forall_mem_cons.mp hes
    obtain ⟨b', hb'⟩ := ih hcs c
    refine ⟨b', fun more => ?_⟩
    have hne : c ≠ quote := fun he => Bool.eq_false_iff.mp hc (he ▸ hquote)
    rw [List.cons_append, readAll_quoted_cons hbackslash hne, hb']

/-- **An escape ends no quotes.** -/
theorem exists_readAll_escape (h : readEscape opening cs = .ok (v, rest))
    (hquote : isQuote quote = true) (b : Char) (d : Nat) :
    ∃ escape b', cs = escape ++ rest ∧ ∀ more,
      readAll ⟨.inside quote false, b, d⟩ ('\\' :: (escape ++ more))
        = readAll ⟨.inside quote false, b', d⟩ more := by
  obtain ⟨c, escape, rfl, hescape⟩ := exists_of_readEscape h
  obtain ⟨b', hb'⟩ := readAll_quoted_append hescape hquote c d
  exact ⟨c :: escape, b', rfl, fun more => hb' more⟩

/-- The quote ends the text in quotes. -/
theorem readAll_quote (hquote : isQuote quote = true) (b : Char) (d : Nat) :
    readAll ⟨.inside quote false, b, d⟩ [quote] = some ⟨.outside, quote, d⟩ := by
  have hne : quote ≠ '\\' := by
    rintro rfl
    cases hquote
  rw [readAll_cons, read_inside, Quoting.next, beq_false_of_ne hne, beq_self_eq_true]
  rfl

/-- **A string is read to its closing quote.** -/
theorem exists_readAll_string (h : readString opening quote cs = .ok (v, rest))
    (hquote : isQuote quote = true) (b : Char) (d : Nat) :
    ∃ inside, cs = inside ++ rest
      ∧ readAll ⟨.inside quote false, b, d⟩ inside = some ⟨.outside, quote, d⟩ := by
  fun_induction readString opening quote cs generalizing v rest b with
  | case1 => cases h
  | case2 => cases h
  | case3 => cases h
  | case4 => cases h
  | case5 cs value left hescape more left' hmore ih =>
    cases h
    obtain ⟨escape, b', rfl, hread⟩ := exists_readAll_escape hescape hquote b d
    obtain ⟨inside, rfl, hinside⟩ := ih hmore b'
    exact ⟨'\\' :: (escape ++ inside), by simp, (hread inside).trans hinside⟩
  | case6 c cs _ _ hc =>
    cases h
    rw [eq_of_beq hc]
    exact ⟨[quote], rfl, readAll_quote hquote b d⟩
  | case7 => cases h
  | case8 c cs _ hbackslash hc more left hmore ih =>
    cases h
    obtain ⟨inside, rfl, hinside⟩ := ih hmore c
    refine ⟨c :: inside, rfl, ?_⟩
    rw [readAll_quoted_cons hbackslash (fun he => hc (beq_of_eq he))]
    exact hinside

/-- **A template without substitutions is read to its closing backtick.** -/
theorem exists_readAll_template {value : TemplateValue}
    (h : readTemplate opening 0 cs = .ok (value, rest)) (hnone : value.substitutions = false)
    (b : Char) (d : Nat) :
    ∃ inside, cs = inside ++ rest
      ∧ readAll ⟨.inside '\x60' false, b, d⟩ inside = some ⟨.outside, '\x60', d⟩ := by
  have hbacktick : isQuote '\x60' = true := rfl
  generalize hdepth : 0 = depth at h
  fun_induction readTemplate opening depth cs generalizing value rest b with
  | case1 => cases h
  | case2 =>
    cases h
    exact ⟨['\x60'], rfl, rfl⟩
  | case3 => cases h
  | case4 => cases h
  | case5 cs value left hescape more left' hmore ih =>
    cases h
    obtain ⟨escape, b', rfl, hread⟩ := exists_readAll_escape hescape hbacktick b d
    obtain ⟨inside, rfl, hinside⟩ := @ih _ more hnone b' rfl hmore
    exact ⟨'\\' :: (escape ++ inside), by simp, (hread inside).trans hinside⟩
  | case6 => cases h
  | case7 =>
    cases h
    cases hnone
  | case8 => cases h
  | case9 =>
    rename_i depth c cs hclose hbackslash _ inside more left hmore ih
    cases h
    subst hdepth
    obtain ⟨inside, rfl, hinside⟩ := @ih _ more hnone c rfl hmore
    refine ⟨c :: inside, rfl, ?_⟩
    rw [readAll_quoted_cons (fun he => hbackslash rfl he) (fun he => hclose rfl he)]
    exact hinside

/-- A template ends with its closing backtick. -/
theorem exists_of_readTemplate {depth : Nat} {value : TemplateValue}
    (h : readTemplate opening depth cs = .ok (value, rest)) :
    ∃ inside, cs = inside ++ '\x60' :: rest := by
  fun_induction readTemplate opening depth cs generalizing value rest with
  | case1 => cases h
  | case2 =>
    cases h
    exact ⟨[], rfl⟩
  | case3 => cases h
  | case4 => cases h
  | case5 cs value left hescape more left' hmore ih =>
    cases h
    obtain ⟨inside, rfl⟩ := ih hmore
    obtain ⟨escape, rfl⟩ := readEscape_suffix hescape
    exact ⟨'\\' :: (escape ++ inside), by simp⟩
  | case6 => cases h
  | case7 cs more left hmore ih =>
    cases h
    obtain ⟨inside, rfl⟩ := ih hmore
    exact ⟨'$' :: '\x7b' :: inside, rfl⟩
  | case8 => cases h
  | case9 =>
    rename_i depth c cs _ _ _ inside more left hmore ih
    cases h
    obtain ⟨inside, rfl⟩ := ih hmore
    exact ⟨c :: inside, rfl⟩

/-- A quote opens a text in quotes. -/
theorem readAll_opening (hquote : isQuote quote = true) (b : Char) (d : Nat) (cs : List Char) :
    readAll ⟨.outside, b, d⟩ (quote :: cs) = readAll ⟨.inside quote false, quote, d⟩ cs := by
  rw [readAll_cons, read_opening hquote]
  rfl

/-! ## What tokens are made of -/

/-- **How a token is spelled.** -/
inductive TokenKind.Spelled : TokenKind → List Char → Prop where
  | name {c : Char} {cs : List Char} : (∀ x ∈ c :: cs, isNamePart x = true) →
    Spelled .identifier (c :: cs)
  | number {c : Char} {cs : List Char} : (∀ x ∈ c :: cs, isNumberPart x = true) →
    Spelled .number (c :: cs)
  | string {quote : Char} {value cs : List Char} : quote = '"' ∨ quote = '\'' →
    readString (quote :: cs) quote cs = .ok (value, []) →
    Spelled (.string (String.ofList value)) (quote :: cs)
  | template {value : TemplateValue} {cs : List Char} :
    readTemplate ('\x60' :: cs) 0 cs = .ok (value, []) →
    Spelled (.template (String.ofList value.chars) value.substitutions) ('\x60' :: cs)
  | arrow : Spelled .arrow ['=', '>']
  | ellipsis : Spelled .ellipsis ['.', '.', '.']
  | punct {c : Char} : isBlank c = false → isQuote c = false → Spelled (.punct c) [c]

/-- **What scans is spelled as the token it is.** -/
theorem Lexeme.Scans.spelled {l : Lexeme} (h : l.Scans) : l.kind.Spelled l.text.toList := by
  obtain ⟨c, cs, htext, hblank, hscan⟩ := h
  rw [htext]
  generalize l.kind = kind at hscan
  generalize hnil : [] = rest at hscan
  cases scanToken_eq_ok_iff.mp hscan with
  | name hc =>
    exact .name (List.forall_mem_cons.mpr
      ⟨isNamePart_of_isNameStart c hc, List.dropWhile_eq_nil_iff.mp hnil.symm⟩)
  | number _ hc =>
    have hfirst : isNumberPart c = true := by
      unfold isNumberPart Char.isAlphanum
      rw [hc, Bool.or_true]
      rfl
    exact .number (List.forall_mem_cons.mpr ⟨hfirst, List.dropWhile_eq_nil_iff.mp hnil.symm⟩)
  | string hc h =>
    subst hnil
    exact .string hc h
  | template hc h =>
    subst hnil hc
    exact .template h
  | arrow hc hcs =>
    subst hnil hc hcs
    exact .arrow
  | ellipsis hc hcs =>
    subst hnil hc hcs
    exact .ellipsis
  | mark _ _ hquote =>
    subst hnil
    simp only [List.mem_cons, List.not_mem_nil, or_false, not_or] at hquote
    exact .punct hblank (by simp [isQuote, hquote])

namespace TokenKind.Spelled

variable {kind : TokenKind}

/-- **A token ends with a character that is no blank.** -/
theorem isBlank_getLast (h : kind.Spelled cs) : ∃ c ∈ cs.getLast?, isBlank c = false := by
  have hword : ∀ {p : Char → Bool} {c : Char} {cs : List Char}, MakesWords p →
      (∀ x ∈ c :: cs, p x = true) → ∃ x ∈ (c :: cs).getLast?, isBlank x = false := by
    intro p c cs hp hall
    obtain ⟨last, hlast⟩ := Option.isSome_iff_exists.mp
      (List.getLast?_isSome.mpr (List.cons_ne_nil c cs))
    exact ⟨last, hlast, hp.isBlank_eq_false (hall last (List.mem_of_getLast? hlast))⟩
  cases h with
  | name h => exact hword makesWords_isNamePart h
  | number h => exact hword makesWords_isNumberPart h
  | @string quote value cs hquote h =>
    obtain ⟨inside, rfl, hread⟩ := exists_readAll_string h (isQuote_of_string hquote) quote 0
    refine ⟨quote, ?_, ?_⟩
    · rw [List.append_nil, List.getLast?_cons]
      exact congrArg some (before_of_readAll hread).symm
    · rcases hquote with rfl | rfl <;> rfl
  | template h =>
    obtain ⟨inside, rfl⟩ := exists_of_readTemplate h
    exact ⟨'\x60', by rw [← List.cons_append, List.getLast?_concat]; rfl, rfl⟩
  | arrow => exact ⟨'>', rfl, rfl⟩
  | ellipsis => exact ⟨'.', rfl, rfl⟩
  | punct hblank _ => exact ⟨_, rfl, hblank⟩

/-- A mark of one character is that character, which does not quote. -/
theorem eq_of_punct (h : (TokenKind.punct c).Spelled cs) : cs = [c] ∧ isQuote c = false := by
  cases h with
  | punct _ hquote => exact ⟨rfl, hquote⟩

end TokenKind.Spelled

/-! ## Tokens that mean nothing to the reader -/

/-- Whether a token is a template in which expressions are put. -/
def TokenKind.hasSubstitutions : TokenKind → Bool
  | .template _ substitutions => substitutions
  | _ => false

/-- **Characters that are passed** in brackets and outside of quotes: they change no depth, and
the last of them is no beginning of an arrow. -/
def TypeText.Inert (cs : List Char) : Prop :=
  ∀ b d, ∃ last, readAll ⟨.outside, b, d + 1⟩ cs = some ⟨.outside, last, d + 1⟩ ∧ last ≠ '='

theorem readAll_of_notMem (h : ∀ c ∈ cs, c ∉ marks) (b : Char) (d : Nat) :
    readAll ⟨.outside, b, d⟩ cs = some ⟨.outside, (cs.getLast?).getD b, d⟩ := by
  induction cs generalizing b with
  | nil => rfl
  | cons c cs ih =>
    obtain ⟨hc, hcs⟩ := List.forall_mem_cons.mp h
    rw [readAll_cons, read_of_notMem hc, Option.bind_some, ih hcs, List.getLast?_cons]
    rfl

/-- Words are passed. -/
theorem MakesWords.inert {p : Char → Bool} (hp : MakesWords p) (h : ∀ x ∈ c :: cs, p x = true) :
    Inert (c :: cs) := by
  intro b d
  obtain ⟨last, hlast⟩ := Option.isSome_iff_exists.mp
    (List.getLast?_isSome.mpr (List.cons_ne_nil c cs))
  have hread := readAll_of_notMem
    (fun x hx hm => hp.notMem_marks (h x hx) (List.mem_cons_of_mem _ hm)) b (d + 1)
  rw [hlast] at hread
  refine ⟨last, hread, fun he => ?_⟩
  exact hp.notMem_marks (h last (List.mem_of_getLast? hlast)) (he ▸ List.mem_cons_self)

/-- A template is passed, if it has no substitutions or is sealed. -/
theorem inert_template {value : TemplateValue} (h : readTemplate opening 0 cs = .ok (value, []))
    (hsealed : value.substitutions = true → Sealed ('\x60' :: cs)) : Inert ('\x60' :: cs) := by
  intro b d
  refine ⟨'\x60', ?_, nofun⟩
  cases hsubstitutions : value.substitutions with
  | false =>
    obtain ⟨inside, rfl, hread⟩ := exists_readAll_template h hsubstitutions '\x60' (d + 1)
    rw [readAll_opening rfl, List.append_nil]
    exact hread
  | true =>
    obtain ⟨last, hread, _⟩ := (hsealed hsubstitutions).readAll b d
    obtain ⟨inside, rfl⟩ := exists_of_readTemplate h
    have hlast : last = '\x60' := by
      have := before_of_readAll hread
      rwa [← List.cons_append, List.getLast?_concat] at this
    rw [hread, hlast]

/-- **A token that is no mark of one character is passed.** -/
theorem TokenKind.Spelled.inert {kind : TokenKind} (h : kind.Spelled cs)
    (hpunct : ∀ p, kind ≠ .punct p) (hsealed : kind.hasSubstitutions = true → Sealed cs) :
    Inert cs := by
  cases h with
  | name h => exact makesWords_isNamePart.inert h
  | number h => exact makesWords_isNumberPart.inert h
  | @string quote value cs hquote h =>
    intro b d
    have hq := isQuote_of_string hquote
    obtain ⟨inside, rfl, hread⟩ := exists_readAll_string h hq quote (d + 1)
    rw [readAll_opening hq, List.append_nil]
    refine ⟨quote, hread, ?_⟩
    rintro rfl
    cases hq
  | template h => exact inert_template h hsealed
  | arrow => exact fun b d => ⟨'>', rfl, nofun⟩
  | ellipsis => exact fun b d => ⟨'.', rfl, nofun⟩
  | @punct c _ _ => exact absurd rfl (hpunct c)

/-! ## Marks -/

/-- Only brackets change how deep in brackets a type is. -/
theorem typeDepth_of_ne_punct {t : Token} (h : ∀ p, t.kind ≠ .punct p) (d : Nat) :
    typeDepth d t = d := by
  have hpunct : ∀ cs, t.isPunctOf cs = false := by
    intro cs
    unfold Token.isPunctOf
    split
    · rename_i p hp
      exact absurd hp (h p)
    · rfl
  rw [typeDepth, hpunct, hpunct]
  rfl

/-- **A mark counts as the token that it is**, unless it ends the argument or makes an arrow. -/
theorem depthAfter_punct {t : Token} (hkind : t.kind = .punct c)
    (hargued : d = 0 → (t.isPunct ',' || t.isPunctOf ('>' :: closers)) = false)
    (hbefore : b = '=' → c ≠ '>') : depthAfter b (d + 1) c = some (typeDepth d t + 1) := by
  unfold Token.isPunct Token.isPunctOf at hargued
  unfold typeDepth depthAfter Token.isPunctOf
  rw [hkind] at hargued ⊢
  grind

/-! ## Tokens of an argument -/

/-- **The characters of a token are read as the token**: they lead to the depth after it, and
the last of them is no beginning of an arrow unless it is the token. -/
theorem exists_readAll_token {t : Token} (h : t.lexeme.Scans)
    (hsealed : t.kind.hasSubstitutions = true → Sealed t.text.toList)
    (hargued : d = 0 → (t.isPunct ',' || t.isPunctOf ('>' :: closers)) = false)
    (hbefore : b = '=' → t.text.toList.head? ≠ some '>') :
    ∃ last, readAll ⟨.outside, b, d + 1⟩ t.text.toList
        = some ⟨.outside, last, typeDepth d t + 1⟩
      ∧ (last = '=' → t.kind = .punct '=') := by
  have hspelled : t.kind.Spelled t.text.toList := h.spelled
  by_cases hpunct : ∃ p, t.kind = .punct p
  · obtain ⟨p, hp⟩ := hpunct
    rw [hp] at hspelled
    obtain ⟨htext, hquote⟩ := hspelled.eq_of_punct
    rw [htext] at hbefore ⊢
    refine ⟨p, ?_, fun he => he ▸ hp⟩
    rw [readAll_cons, read_outside hquote,
      depthAfter_punct hp hargued fun he hc => hbefore he (hc ▸ rfl)]
    rfl
  · have hother : ∀ p, t.kind ≠ .punct p := fun p hp => hpunct ⟨p, hp⟩
    obtain ⟨last, hread, hne⟩ := hspelled.inert hother hsealed b d
    rw [typeDepth_of_ne_punct hother]
    exact ⟨last, hread, fun he => absurd he hne⟩

/-- **A plain token**: what stands before it is sealed, and so is the token if it is a template
in which expressions are put. All other tokens a reader of characters takes for what they
are. -/
def Token.Plain (t : Token) : Prop :=
  Sealed t.trivia.toList ∧ (t.kind.hasSubstitutions = true → Sealed t.text.toList)

instance (t : Token) : Decidable t.Plain := inferInstanceAs (Decidable (_ ∧ _))

/-- A mark that begins an arrow is one. -/
theorem head?_ne_of_scanToken {body : List Char} {t : Token} (hkind : t.kind = .punct '=')
    (hscan : scanToken c body = .ok (t.kind, rest)) (h : c :: body = '=' :: rest) :
    rest.head? ≠ some '>' := by
  obtain ⟨rfl, rfl⟩ := List.cons.inj h
  rw [hkind] at hscan
  cases scanToken_eq_ok_iff.mp hscan with
  | mark _ _ _ _ harrow => exact harrow rfl

/-- **The characters of an argument are read as its tokens** up to its end, if these are
plain. -/
theorem exists_readAll_tokens {offset : Nat} {ts us : List Token} (hne : us ≠ [])
    (h : tokensFrom offset cs = .ok (ts ++ us)) (hargued : Token.Argued d ts)
    (hplain : ∀ t ∈ ts, t.Plain) (hbefore : b = '=' → cs.head? ≠ some '>') :
    ∃ last, readAll ⟨.outside, b, d + 1⟩ (characters (ts.map Token.piece))
      = some ⟨.outside, last, 1⟩ := by
  induction ts generalizing offset cs b d with
  | nil =>
    obtain rfl := hargued
    exact ⟨b, rfl⟩
  | cons t ts ih =>
    obtain ⟨hnow, hargued⟩ := hargued
    obtain ⟨⟨htrivia, htemplate⟩, hplain⟩ := List.forall_mem_cons.mp hplain
    have hne' := List.append_ne_nil_of_right_ne_nil ts hne
    have hscans := scans_of_tokensFrom h hne'
    obtain ⟨c, body, left, hbody, rfl, _, hscan, hrest, _⟩ := exists_first_of_tokensFrom h hne'
    obtain ⟨b₁, hread₁, hb₁⟩ := htrivia.readAll b d
    have hbefore₁ : b₁ = '=' → t.text.toList.head? ≠ some '>' := by
      intro he
      rcases hb₁ with ⟨hnil, rfl⟩ | hb₁
      · -- nothing stands before the token, so what comes first is its own
        obtain ⟨own, more, htext, _⟩ := hscans
        change t.text.toList = own :: more at htext
        rw [htext] at hbody ⊢
        rw [hnil, hbody] at hbefore
        exact hbefore he
      · exact absurd he hb₁
    obtain ⟨b₂, hread₂, hb₂⟩ := exists_readAll_token hscans htemplate hnow hbefore₁
    have hbefore₂ : b₂ = '=' → left.head? ≠ some '>' := by
      intro he
      have hspelled : t.kind.Spelled t.text.toList := hscans.spelled
      rw [hb₂ he] at hspelled
      refine head?_ne_of_scanToken (hb₂ he) hscan (hbody.trans ?_)
      rw [hspelled.eq_of_punct.1]
      rfl
    obtain ⟨last, hread⟩ := ih hrest hargued hplain hbefore₂
    refine ⟨last, ?_⟩
    rw [List.map_cons, characters_cons]
    exact (readAll_append_of_some hread₁).trans ((readAll_append_of_some hread₂).trans hread)

/-- **A plain text**: all its tokens are, and it does not end as an arrow begins. -/
def TypeText.IsPlain (text : String) : Prop :=
  (∃ ts ∈ (tokenize text).toOption, ∀ t ∈ ts, t.Plain) ∧ text.toList.getLast? ≠ some '='

instance (text : String) : Decidable (IsPlain text) := inferInstanceAs (Decidable (_ ∧ _))

/-! ## Type arguments -/

/-- Whether tokens are one argument depends on what they are alone. -/
theorem argued_of_map_kind {ts us : List Token} (h : Token.Argued d ts)
    (hkind : ts.map Token.kind = us.map Token.kind) : Token.Argued d us := by
  induction ts generalizing us d with
  | nil =>
    obtain rfl := List.map_eq_nil_iff.mp hkind.symm
    exact h
  | cons t ts ih =>
    obtain ⟨u, vs, rfl, hu, hvs⟩ := List.map_eq_cons_iff.mp hkind.symm
    have hpunct : ∀ p, u.isPunct p = t.isPunct p := fun p => by
      unfold Token.isPunct
      rw [hu]
    have hpunctOf : ∀ cs, u.isPunctOf cs = t.isPunctOf cs := fun cs => by
      unfold Token.isPunctOf
      rw [hu]
    have hdepth : typeDepth d u = typeDepth d t := by
      unfold typeDepth
      rw [hpunctOf, hpunctOf]
    refine ⟨?_, ?_⟩
    · rw [hpunct, hpunctOf]
      exact h.1
    · rw [hdepth]
      exact ih h.2 hvs.symm

/-- What ends with a token ends with a character that is no blank. -/
theorem isBlank_getLast_characters {ps : List Piece} (h : ∀ p ∈ ps, p.lexeme.Scans)
    (hne : ps ≠ []) : ∃ c ∈ (characters ps).getLast?, isBlank c = false := by
  obtain ⟨init, p, rfl⟩ := (List.eq_nil_or_concat' ps).resolve_left hne
  obtain ⟨c, hc, hblank⟩ := (h p List.mem_concat_self).spelled.isBlank_getLast
  refine ⟨c, ?_, hblank⟩
  rw [characters_append, characters_cons, characters_nil, List.append_nil, List.getLast?_append,
    List.getLast?_append, hc]
  rfl

namespace Node.IsArgument

variable {text argument : String} {ts : List Token} {n : Node} (h : n.IsArgument ts)
  (hts : tokenize text = .ok ts) (hn : n.form = .typeText argument)

include h hts hn

/-- **A type argument is the text that it covers.** -/
theorem exists_append :
    ∃ before after, text.toList = before ++ (argument.toList ++ after)
      ∧ byteLength before = n.range.start ∧ byteLength argument.toList = n.range.length := by
  obtain ⟨before, t, run, rest, rfl, hrest, _, hform, hstart, hstop⟩ := h
  obtain rfl := Form.typeText.inj (hn.symm.trans hform)
  obtain ⟨prior, after, htext, hprior, hlast⟩ := exists_append_of_spelling hts hrest
  obtain ⟨last, hmem, hstop⟩ := Option.map_eq_some_iff.mp hstop
  have hlength := hlast last hmem
  refine ⟨prior, after, htext, hprior.trans hstart.symm, ?_⟩
  unfold TextRange.stop at hstop
  omega

/-- **A type argument is read again as its tokens**, which are those of one argument. -/
theorem exists_tokens :
    ∃ ws e, tokenize argument = .ok (ws ++ [e]) ∧ Token.Argued 0 ws
      ∧ argument.toList = characters (ws.map Token.piece)
      ∧ ∃ w, ws.head? = some w ∧ w.trivia = "" := by
  obtain ⟨before, t, run, rest, rfl, hrest, hargued, hform, _⟩ := h
  obtain rfl := Form.typeText.inj (hn.symm.trans hform)
  obtain ⟨vs, hvs, hpieces⟩ := exists_tokenize_spelling hts hrest
  obtain ⟨ws, es, rfl, hws, hes⟩ := List.map_eq_append_iff.mp hpieces
  obtain ⟨e, rfl, -⟩ := List.map_eq_singleton_iff.mp hes
  have hkinds : (t :: run).map Token.kind = ws.map Token.kind := by
    have := congrArg (List.map fun p => p.lexeme.kind) hws
    rw [List.map_map, List.map_cons, List.map_map] at this
    exact this.symm
  refine ⟨ws, e, hvs, argued_of_map_kind hargued hkinds, ?_, ?_⟩
  · rw [hws, characters_cons, toList_spelling_cons]
    rfl
  · obtain ⟨w, _, rfl, hw, _⟩ := List.map_eq_cons_iff.mp hws
    exact ⟨w, rfl, congrArg Piece.gap hw⟩

/-- **A type argument has no blanks at its ends.** -/
theorem trim_eq : trim argument.toList = argument.toList := by
  obtain ⟨ws, e, hws, _, htext, w, hhead, hgap⟩ := h.exists_tokens hts hn
  have hscans : ∀ u ∈ ws, u.lexeme.Scans := scans_of_mem_tokensFrom (tokenize_eq_ok.mp hws)
    (List.cons_ne_nil e [])
  obtain ⟨more, rfl⟩ := List.head?_eq_some_iff.mp hhead
  rw [htext]
  refine trim_eq_self (fun c hc => ?_) (fun c hc => ?_)
  · obtain ⟨first, own, hfirst, hblank, _⟩ := hscans w List.mem_cons_self
    change w.text.toList = first :: own at hfirst
    rw [List.map_cons, characters_cons, Token.piece, Token.lexeme, hgap, hfirst] at hc
    rw [← Option.some.inj hc]
    exact hblank
  · have hpieces : ∀ p ∈ (w :: more).map Token.piece, p.lexeme.Scans :=
      List.forall_mem_map.mpr hscans
    obtain ⟨last, hlast, hblank⟩ := isBlank_getLast_characters hpieces (List.cons_ne_nil _ _)
    rw [Option.mem_unique hc hlast]
    exact hblank

/-- **A plain type argument is read through** by its characters. -/
theorem readThrough (hplain : IsPlain argument) : ReadThrough argument := by
  obtain ⟨ws, e, hws, hargued, htext, _⟩ := h.exists_tokens hts hn
  obtain ⟨⟨vs, hvs, hplain⟩, hend⟩ := hplain
  rw [hws] at hvs
  obtain rfl := Option.some.inj hvs
  obtain ⟨last, hread⟩ := exists_readAll_tokens (b := '<') (List.cons_ne_nil e [])
    (tokenize_eq_ok.mp hws) hargued (fun w hw => hplain w (List.mem_append_left _ hw)) nofun
  rw [← htext] at hread
  refine ⟨last, hread, fun he => hend ?_⟩
  have hlast := before_of_readAll hread
  cases hgetLast : argument.toList.getLast? with
  | none =>
    rw [hgetLast, he] at hlast
    cases hlast
  | some c =>
    rw [hgetLast, he] at hlast
    exact congrArg some hlast.symm

end Node.IsArgument

end TypeTest
