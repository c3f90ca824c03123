import TypeTest.Proofs.Parsing.TokenRuns

/-!
# Tokens tile their text

The tokens of a text and what is skipped between them cover the text from its start to its end,
one after the other, and each part is complete by itself. What is skipped in front of a token is
skipped where nothing follows, and a token is scanned alone, at the start of a text, as the token
it is. So a token has no need of the text around it, on either side.
-/

namespace TypeTest

variable {text : String} {cs : List Char} {offset : Nat} {before after ts : List Token}
  {t u : Token}

/-- **The part of a text** that a range covers. -/
def TextRange.partOf (r : TextRange) (text : String) : String :=
  String.ofList (takeBytes r.length (dropBytes r.start text.toList))

theorem TextRange.partOf_eq {prior inside rest : List Char} {r : TextRange}
    (h : text.toList = prior ++ (inside ++ rest)) (hstart : r.start = byteLength prior)
    (hlength : r.length = byteLength inside) : r.partOf text = String.ofList inside := by
  rw [partOf, h, hstart, hlength, dropBytes_byteLength_append, takeBytes_byteLength_append]

/-- **A text without tokens**: only the end token is scanned. -/
def IsSkipped (text : String) : Prop := ∃ e, tokenize text = .ok [e] ∧ e.isEnd = true

/-- **A text that is one token**, what is skipped before it being empty. -/
def IsToken (kind : TokenKind) (text : String) : Prop :=
  ∃ e, tokenize text = .ok [⟨kind, "", text, 0⟩, e] ∧ e.isEnd = true

/-- **Tokens that tile a text.** -/
structure Tile (text : String) (ts : List Token) : Prop where
  slices : ∀ t ∈ ts, t.range.SliceOf text.toList
  /-- A token starts before the tokens after it, and stops before they start. -/
  increasing : ts.Pairwise fun t u => t.start < u.start ∧ t.stop ≤ u.start
  /-- Every token but the end token covers some text. -/
  nonempty : ∀ t ∈ ts, t.isEnd = false → 0 < t.range.length
  /-- The end token is the last one and no other, and stands at the end of the text. -/
  last : ∃ before e, ts = before ++ [e] ∧ e.isEnd = true
    ∧ e.range = ⟨byteLength text.toList, 0⟩ ∧ ∀ t ∈ before, t.isEnd = false
  /-- Nothing but blanks and comments stands before the first token, -/
  lead : ∀ t ∈ ts.head?, IsSkipped (TextRange.partOf ⟨0, t.start⟩ text)
  /-- and between two neighbours. -/
  gaps : ∀ t u, [t, u] <:+: ts → IsSkipped (TextRange.partOf ⟨t.stop, u.start - t.stop⟩ text)
  /-- A token is scanned alone as what it is. -/
  alone : ∀ t ∈ ts, t.isEnd = false → IsToken t.kind (t.range.partOf text)

/-! ## The parts of a text -/

theorem isSkipped_of_skipTrivia (h : skipTrivia cs = .ok []) : IsSkipped (String.ofList cs) := by
  refine ⟨_, tokenize_eq_ok.mpr (tokensFrom_of_skipped ?_ 0), rfl⟩
  rw [String.toList_ofList]
  exact h

/-- **A lexeme that scans is one token.** -/
theorem Lexeme.Scans.isToken {l : Lexeme} (h : l.Scans) : IsToken l.kind l.text :=
  ⟨_, h.tokenize_eq, rfl⟩

/-- **The first token of a text**: what is skipped before it is skipped alone, and where it is
the end token the text ends. -/
theorem exists_head_of_tokensFrom (h : tokensFrom offset cs = .ok (t :: ts)) :
    ∃ rest, cs = t.trivia.toList ++ (t.text.toList ++ rest)
      ∧ t.start = offset + byteLength t.trivia.toList ∧ skipTrivia t.trivia.toList = .ok []
      ∧ (t.isEnd = true → t.text.toList = [] ∧ rest = []) := by
  by_cases hne : ts = []
  · subst hne
    unfold tokensFrom at h
    split at h
    · cases h
    · rename_i hs
      cases h
      have htrivia := readPart_append cs []
      rw [List.append_nil] at htrivia
      refine ⟨[], ?_, ?_, ?_, fun _ => ⟨rfl, rfl⟩⟩
      all_goals rw [htrivia, String.toList_ofList]
      · exact (List.append_nil _).symm
      · exact hs
    · -- a token is followed by others, the end token at least
      split at h
      · cases h
      · dsimp only at h
        split at h
        · cases h
        · rename_i more hmore
          cases h
          obtain ⟨init, e, hlast, -⟩ := (inOrder_tokensFrom hmore).1.last
          cases init <;> cases hlast
  · obtain ⟨c, body, rest, hbody, hcs, hskip, hscan, -, hstart⟩ := exists_first_of_tokensFrom h hne
    refine ⟨rest, by rw [← hbody, hcs], hstart, ?_, fun he => ?_⟩
    · rw [hcs] at hskip
      exact @skipTrivia_of_append _ [] (c :: body) hskip
    · exact absurd (eq_of_beq he) (scanToken_ne_end hscan)

/-- Where the last of several tokens stops, or the text starts if there are none. -/
def stopOf (ts : List Token) : Nat := (ts.getLast?.map Token.stop).getD 0

/-- **The place of a token** in the text, behind the tokens before it. -/
theorem exists_place (h : tokenize text = .ok (before ++ t :: after)) :
    ∃ prior rest, text.toList = prior ++ (t.trivia.toList ++ (t.text.toList ++ rest))
      ∧ byteLength prior = stopOf before
      ∧ t.start = byteLength prior + byteLength t.trivia.toList
      ∧ skipTrivia t.trivia.toList = .ok []
      ∧ (t.isEnd = true → t.text.toList = [] ∧ rest = []) := by
  have hfrom := tokenize_eq_ok.mp h
  obtain ⟨left, htext, hleft, -⟩ := exists_tokensFrom_cut hfrom (List.cons_ne_nil _ _)
  obtain ⟨rest, rfl, hstart, hskip, hend⟩ := exists_head_of_tokensFrom hleft
  rw [Nat.zero_add] at hstart
  refine ⟨_, rest, htext, ?_, hstart, hskip, hend⟩
  unfold stopOf
  cases hlast : before.getLast? with
  | none =>
    rw [List.getLast?_eq_none_iff.mp hlast]
    rfl
  | some p =>
    have hstop := stop_of_mem_getLast? hfrom (List.cons_ne_nil _ _) hlast
    rw [Nat.zero_add] at hstop
    exact hstop.symm

/-- A token covers its own characters. -/
theorem partOf_range (h : tokenize text = .ok (before ++ t :: after)) :
    t.range.partOf text = t.text := by
  obtain ⟨prior, rest, htext, -, hstart, -⟩ := exists_place h
  rw [← List.append_assoc] at htext
  rw [TextRange.partOf_eq htext (hstart.trans (byteLength_append _ _).symm) rfl,
    String.ofList_toList]

/-- **What stands in front of a token**, behind the tokens before it, has no tokens. -/
theorem isSkipped_gap (h : tokenize text = .ok (before ++ t :: after)) :
    IsSkipped (TextRange.partOf ⟨stopOf before, t.start - stopOf before⟩ text) := by
  obtain ⟨prior, rest, htext, hprior, hstart, hskip, -⟩ := exists_place h
  have hlength : t.start - stopOf before = byteLength t.trivia.toList := by
    rw [hstart, ← hprior, Nat.add_sub_cancel_left]
  rw [TextRange.partOf_eq htext hprior.symm hlength]
  exact isSkipped_of_skipTrivia hskip

/-- **The tokens of a text tile it.** Each covers some text between two characters, but for the
end token, which is the last one and stands at the end; each starts behind the tokens before it.
What stands before the first token and between two neighbours has no tokens when it is scanned
alone. And the text of any other token than the last, scanned alone, is this one token. -/
theorem tile_tokenize (h : tokenize text = .ok ts) : Tile text ts := by
  have horder := inOrder_tokenize h
  obtain ⟨init, e, rfl, he, hinit⟩ := horder.last
  have hnonempty : ∀ t ∈ init, t.start < t.stop := fun t ht =>
    horder.nonempty t (List.mem_append_left _ ht) (hinit t ht)
  refine ⟨fun t ht => ?_, ?_, fun t ht hne => ?_, ⟨init, e, rfl, he, ?_, hinit⟩, fun t ht => ?_,
    fun t u htu => ?_, fun t ht hne => ?_⟩
  · have hboundary := (standsIn_tokenize h t ht).isBoundary
    exact ⟨hboundary.1, hboundary.2, hboundary.2.le⟩
  · -- a token with others behind it is not the end token
    obtain ⟨hrows, -, hlast⟩ := List.pairwise_append.mp horder.pairwise
    refine List.pairwise_append.mpr ⟨?_, List.pairwise_singleton _ _, fun t ht u hu => ?_⟩
    · exact hrows.imp_of_mem fun ht _ hle => ⟨Nat.lt_of_lt_of_le (hnonempty _ ht) hle, hle⟩
    · exact ⟨Nat.lt_of_lt_of_le (hnonempty t ht) (hlast t ht u hu), hlast t ht u hu⟩
  · exact Nat.lt_of_add_lt_add_left (horder.nonempty t ht hne)
  · obtain ⟨prior, rest, htext, -, hstart, -, hend⟩ := exists_place h
    obtain ⟨hnil, rfl⟩ := hend he
    rw [Token.range, htext, hnil, hstart, List.append_nil, List.append_nil, byteLength_append]
    rfl
  · obtain ⟨rest, hrest⟩ := List.head?_eq_some_iff.mp ht
    exact @isSkipped_gap text [] rest t (hrest ▸ h)
  · obtain ⟨before, after, hsplit⟩ := htu
    have hbehind : init ++ [e] = before ++ [t] ++ u :: after := by
      rw [← hsplit, ← List.append_cons, List.append_assoc]
      rfl
    have hgap := isSkipped_gap (hbehind ▸ h)
    rwa [stopOf, List.getLast?_concat] at hgap
  · have hscans : t.lexeme.Scans := by
      refine scans_of_mem_tokensFrom (tokenize_eq_ok.mp h) (List.cons_ne_nil e []) t ?_
      refine (List.mem_append.mp ht).resolve_right fun hlast => ?_
      rw [List.mem_singleton.mp hlast, he] at hne
      cases hne
    obtain ⟨before, after, hsplit⟩ := List.append_of_mem ht
    rw [hsplit] at h
    rw [partOf_range h]
    exact hscans.isToken

/-- A name, a template with a quote in it and comments tile their text. -/
theorem tile_tokenize_template :
    tokenize "é/* ; */`$\x7b\"x\x7d`// 'y"
        = .ok [⟨.identifier, "", "é", 0⟩, ⟨.template "$\x7b\"x\x7d" true, "/* ; */",
            "`$\x7b\"x\x7d`", 9⟩, ⟨.endOfText, "// 'y", "", 21⟩]
      ∧ Tile "é/* ; */`$\x7b\"x\x7d`// 'y" [⟨.identifier, "", "é", 0⟩,
          ⟨.template "$\x7b\"x\x7d" true, "/* ; */", "`$\x7b\"x\x7d`", 9⟩,
          ⟨.endOfText, "// 'y", "", 21⟩] := by
  have h : tokenize "é/* ; */`$\x7b\"x\x7d`// 'y"
      = .ok [⟨.identifier, "", "é", 0⟩, ⟨.template "$\x7b\"x\x7d" true, "/* ; */",
          "`$\x7b\"x\x7d`", 9⟩, ⟨.endOfText, "// 'y", "", 21⟩] := by
    decide +kernel
  exact ⟨h, tile_tokenize h⟩

end TypeTest
