import TypeTest.Proofs.Parsing.Separated
import TypeTest.Proofs.Printing.RoundTrip

/-!
# Lexemes laid out freely

A text need not have single blanks between its tokens. A **piece** is a lexeme with the
blanks in front of it; as long as every lexeme **ends before** what follows, which may be
the next lexeme without any blank, pieces are scanned one by one. And a script whose tokens
are those of a printed one is read as the printed one is, whatever blanks stand between
them, unless a line breaks there: the two texts are read side by side.
-/

namespace TypeTest

/-! ## Pieces that stay apart -/

/-- **Pieces that stay apart** in front of a text: blanks stand before lexemes that scan, and
each lexeme ends before what follows it. -/
inductive Apart (tail : List Char) : List Piece → Prop where
  | nil : Apart tail []
  | cons {p : Piece} {ps : List Piece} : p.gap.toList.all isBlank = true →
    p.lexeme.Scans → p.lexeme.kind.EndsBefore (characters ps ++ tail) → Apart tail ps →
    Apart tail (p :: ps)

/-- Blanks in front of a text are skipped. -/
theorem skipTrivia_of_blank {gap : List Char} (h : gap.all isBlank = true)
    (rest : List Char) : skipTrivia (gap ++ rest) = skipTrivia rest := by
  induction gap with
  | nil => rfl
  | cons c cs ih =>
    obtain ⟨hc, hcs⟩ := Bool.and_eq_true_iff.mp h
    have hslash : c ≠ '/' := by
      rintro rfl
      revert hc
      decide
    rw [List.cons_append, skipTrivia, if_pos hc]
    · exact ih hcs
    · exact fun _ he _ => hslash he
    · exact fun _ he _ => hslash he

/-- **Pieces that stay apart are scanned one by one**, then what comes after them. -/
theorem exists_tokensFrom_append {ps : List Piece} {tail : List Char} (h : Apart tail ps)
    (offset : Nat) :
    ∃ ts, ts.map Token.piece = ps ∧ tokensFrom offset (characters ps ++ tail)
      = (tokensFrom (offset + byteLength (characters ps)) tail).map (ts ++ ·) := by
  induction h generalizing offset with
  | nil =>
    refine ⟨[], rfl, ?_⟩
    show tokensFrom offset tail = (tokensFrom offset tail).map id
    rw [Except.map_id]
    rfl
  | @cons p ps hgap hscans hends _ ih =>
    obtain ⟨ts, hmap, hts⟩ :=
      ih (offset + byteLength p.gap.toList + byteLength p.lexeme.text.toList)
    have hskip := (skipTrivia_of_blank hgap _).trans (skipTrivia_of_scans hscans hends)
    have ht := tokensFrom_lexeme_eq hscans hskip hends offset
    rw [String.ofList_toList, hts] at ht
    refine ⟨⟨p.lexeme.kind, p.gap, p.lexeme.text, offset + byteLength p.gap.toList⟩ :: ts,
      congrArg (p :: ·) hmap, ?_⟩
    rw [characters_cons, List.append_assoc, List.append_assoc, ht, byteLength_append,
      byteLength_append, ← Nat.add_assoc, ← Nat.add_assoc]
    cases tokensFrom _ tail <;> rfl

/-- **Pieces that stay apart are scanned one by one.** -/
theorem exists_tokensFrom_characters {ps : List Piece} (h : Apart [] ps) (offset : Nat) :
    ∃ ts, tokensFrom offset (characters ps) = .ok ts
      ∧ ts.map Token.piece = ps ++ [⟨"", .ending⟩] := by
  obtain ⟨ts, rfl, hts⟩ := exists_tokensFrom_append h offset
  rw [List.append_nil, tokensFrom_nil] at hts
  exact ⟨_, hts, by rw [List.map_append]; rfl⟩

namespace Apart

variable {tail : List Char} {ps qs : List Piece}

theorem append (h : Apart (characters qs ++ tail) ps) (h' : Apart tail qs) :
    Apart tail (ps ++ qs) := by
  induction h with
  | nil => exact h'
  | cons hgap hscans hends _ ih =>
    refine .cons hgap hscans ?_ ih
    show TokenKind.EndsBefore _ (characters (_ ++ qs) ++ tail)
    rw [characters_append, List.append_assoc]
    exact hends

/-- Of the text that follows only the first character matters. -/
theorem of_head {b : Char} (h : Apart [b] ps) (more : List Char) : Apart (b :: more) ps := by
  induction h with
  | nil => exact .nil
  | @cons p ps hgap hscans hends _ ih =>
    refine .cons hgap hscans ?_ ih
    intro d ds hd
    cases hcs : characters ps with
    | nil =>
      rw [hcs] at hd hends
      exact hends d [] (by rw [(List.cons.inj hd).1]; rfl)
    | cons e es =>
      rw [hcs] at hd hends
      exact hends d _ (by rw [← (List.cons.inj hd).1]; rfl)

end Apart

/-! ### Pieces that are given -/

instance (l : Lexeme) : Decidable l.Scans :=
  match h : l.text.toList with
  | [] => .isFalse fun ⟨_, _, hcs, _⟩ => by cases h.symm.trans hcs
  | c :: cs =>
    decidable_of_iff (isBlank c = false ∧ scanToken c cs = .ok (l.kind, []))
      ⟨fun hs => ⟨c, cs, h, hs⟩, fun ⟨_, _, hcs, hs⟩ => by cases h.symm.trans hcs; exact hs⟩

instance (kind : TokenKind) (cs : List Char) : Decidable (kind.EndsBefore cs) :=
  match cs with
  | [] => .isTrue kind.endsBefore_nil
  | b :: more =>
    decidable_of_iff (kind.endsBefore b = true)
      ⟨fun h => TokenKind.endsBefore_cons h more, fun h => h b more rfl⟩

/-- Whether pieces stay apart is decided from the first to the last. -/
instance Apart.decidable (tail : List Char) : (ps : List Piece) → Decidable (Apart tail ps)
  | [] => .isTrue .nil
  | p :: ps =>
    have := Apart.decidable tail ps
    decidable_of_iff (p.gap.toList.all isBlank = true ∧ p.lexeme.Scans
        ∧ p.lexeme.kind.EndsBefore (characters ps ++ tail) ∧ Apart tail ps)
      ⟨fun ⟨hgap, hscans, hends, h⟩ => .cons hgap hscans hends h,
        fun h => by cases h with | cons hgap hscans hends h => exact ⟨hgap, hscans, hends, h⟩⟩

/-! ### Lists -/

/-- Lexemes with single blanks between them, and `gap` in front of the first one. -/
def row (gap : String) : List Lexeme → List Piece
  | [] => []
  | l :: ls => ⟨gap, l⟩ :: row " " ls

/-- Rows with a comma and a blank between them, and `gap` in front of the first one. -/
def listed (gap : String) : List (List Lexeme) → List Piece
  | [] => []
  | [ls] => row gap ls
  | ls :: ms :: more => row gap ls ++ ⟨"", .mark ','⟩ :: listed " " (ms :: more)

variable {gap : String} {ls : List Lexeme} {lss : List (List Lexeme)} {tail : List Char}

theorem map_lexeme_row (gap : String) (ls : List Lexeme) :
    (row gap ls).map Piece.lexeme = ls := by
  induction ls generalizing gap with
  | nil => rfl
  | cons l ls ih => rw [row, List.map_cons, ih]

theorem map_lexeme_listed (gap : String) (lss : List (List Lexeme)) :
    (listed gap lss).map Piece.lexeme = commas lss := by
  fun_induction listed gap lss with
  | case1 => rfl
  | case2 gap ls => exact map_lexeme_row gap ls
  | case3 gap ls ms more ih =>
    rw [List.map_append, List.map_cons, ih, map_lexeme_row]
    rfl

theorem characters_row_blank (ls : List Lexeme) : characters (row " " ls) = spaced ls := by
  have hblank : " ".toList = [' '] := by decide
  induction ls with
  | nil => rfl
  | cons l ls ih =>
    rw [row, characters_cons, ih, hblank]
    rfl

theorem characters_row (h : ls ≠ []) :
    characters (row gap ls) = gap.toList ++ (printed ls).toList := by
  obtain ⟨l, ls, rfl⟩ := List.exists_cons_of_ne_nil h
  rw [row, characters_cons, characters_row_blank, toList_printed]

theorem characters_listed (hne : lss ≠ []) (h : ∀ ls ∈ lss, ls ≠ []) :
    characters (listed gap lss)
      = gap.toList ++ (", ".intercalate (lss.map printed)).toList := by
  have hcomma : ", ".toList = [','] ++ " ".toList := by decide
  have hmark : (Lexeme.mark ',').text.toList = [','] := by decide
  fun_induction listed gap lss with
  | case1 => exact absurd rfl hne
  | case2 gap ls =>
    rw [characters_row (h ls List.mem_cons_self), List.map_singleton,
      String.intercalate_singleton]
  | case3 gap ls ms more ih =>
    obtain ⟨hls, h⟩ := List.forall_mem_cons.mp h
    have hcut : (", ".intercalate ((ls :: ms :: more).map printed)).toList
        = (printed ls).toList ++ ([','] ++ " ".toList)
          ++ (", ".intercalate ((ms :: more).map printed)).toList := by
      show (", ".intercalate (printed ls :: printed ms :: more.map printed)).toList = _
      rw [String.intercalate_cons_cons, String.toList_append, String.toList_append, hcomma]
      rfl
    rw [characters_append, characters_row hls, characters_cons, ih (List.cons_ne_nil _ _) h, hmark,
      hcut]
    simp only [List.append_assoc]
    rfl

/-- No line breaks in front of the lexeme. -/
def Piece.Unbroken (p : Piece) : Prop := p.gap.toList.contains '\n' = false

instance (p : Piece) : Decidable p.Unbroken := inferInstanceAs (Decidable (_ = _))

theorem unbroken_row (hgap : gap.toList.contains '\n' = false) :
    ∀ p ∈ row gap ls, p.Unbroken := by
  induction ls generalizing gap with
  | nil => exact nofun
  | cons l ls ih => exact List.forall_mem_cons.mpr ⟨hgap, ih (by decide)⟩

theorem unbroken_listed (hgap : gap.toList.contains '\n' = false) :
    ∀ p ∈ listed gap lss, p.Unbroken := by
  fun_induction listed gap lss with
  | case1 => exact nofun
  | case2 gap ls => exact unbroken_row hgap
  | case3 gap ls ms more ih =>
    refine List.forall_mem_append.mpr ⟨unbroken_row hgap, List.forall_mem_cons.mpr ⟨by decide, ?_⟩⟩
    exact ih (by decide)

/-- **A row stays apart** if the last lexeme in it ends before what follows the row. -/
theorem apart_row (hgap : gap.toList.all isBlank = true) (hscans : ∀ l ∈ ls, l.Scans)
    (hends : ∀ l ∈ ls.getLast?, l.kind.EndsBefore tail) : Apart tail (row gap ls) := by
  induction ls generalizing gap with
  | nil => exact .nil
  | cons l ls ih =>
    obtain ⟨hl, hscans⟩ := List.forall_mem_cons.mp hscans
    cases ls with
    | nil => exact .cons hgap hl (hends l rfl) .nil
    | cons m ls =>
      rw [List.getLast?_cons_cons] at hends
      refine .cons hgap hl ?_ (ih (by decide) hscans hends)
      rw [characters_row_blank]
      exact l.kind.endsBefore_blank _

/-- **A list stays apart** if the last lexeme in it ends before what follows the list. -/
theorem apart_listed (hgap : gap.toList.all isBlank = true)
    (hscans : ∀ ls ∈ lss, ∀ l ∈ ls, l.Scans)
    (hends : ∀ ls ∈ lss.getLast?, ∀ l ∈ ls.getLast?, l.kind.EndsBefore tail) :
    Apart tail (listed gap lss) := by
  -- every token ends before the comma after a row
  have hcomma : ∀ (kind : TokenKind) (more : List Char), kind.EndsBefore (',' :: more) :=
    fun kind => TokenKind.endsBefore_cons
      (TokenKind.endsBefore_of_notMem (by decide +kernel) (by decide) (by decide) kind)
  have hblank : " ".toList.all isBlank = true := by decide
  fun_induction listed gap lss with
  | case1 => exact .nil
  | case2 gap ls => exact apart_row hgap (hscans _ List.mem_cons_self) (hends _ rfl)
  | case3 gap ls ms more ih =>
    obtain ⟨hls, hscans⟩ := List.forall_mem_cons.mp hscans
    rw [List.getLast?_cons_cons] at hends
    refine .append (apart_row hgap hls fun l _ => ?_)
      (.cons rfl (.mark rfl rfl) (fun _ _ _ => rfl) (ih hblank hscans hends))
    exact hcomma l.kind _

/-! ## Scripts -/

/-- The token after a single blank. -/
def Token.respaced (t : Token) : Token := { t with trivia := " " }

/-- The cursor on the same tokens with single blanks between them. -/
def Cursor.respaced (c : Cursor) : Cursor :=
  ⟨c.previous, c.current.respaced, c.rest.map Token.respaced, c.stored⟩

variable {c : Cursor} {ts : List Token}

theorem Cursor.faces_respaced (h : (c.current :: c.rest).map Token.lexeme = ls ++ [.ending]) :
    c.respaced.Faces ls := by
  have hblank : " ".toList.contains '\n' = false := by decide
  refine ⟨?_, hblank, List.forall_mem_map.mpr fun t _ => .inl rfl⟩
  show (c.current.respaced :: c.rest.map Token.respaced).map Token.lexeme = _
  rw [← List.map_cons, List.map_map]
  exact h

namespace Comparison

/-- **Texts with the same tokens**, whatever stands between them. -/
def relaid : Comparison where
  Offsets _ _ := True
  Trivia _ _ := True
  Tails _ _ := True
  Indices _ _ := True
  Ranges _ _ := True
  Texts _ _ := True
  Like := Node.Like (fun _ _ => True) fun _ _ => True
  more := none
  ranges _ _ := trivial
  tail _ := trivial
  texts _ _ _ _ := trivial
  succ _ := trivial
  like hform hrange _ := .mk hform hrange
  free _ _ _ := trivial
  unnumbered _ _ _ := trivial

/-- Tokens with which no text ends, but for the last of them, correspond to themselves. -/
theorem left_respaced (hls : ∀ l ∈ ls, l.kind ≠ .endOfText)
    (h : ts.map Token.lexeme = ls ++ [.ending]) (hts : ∀ t ∈ ts, t.breaksLine = false) :
    relaid.Left false (ts.map Token.respaced) ts := by
  have hblank : " ".toList.contains '\n' = false := by decide
  induction ls generalizing ts with
  | nil =>
    obtain ⟨t, _, rfl, ht, hnil⟩ := List.map_eq_cons_iff.mp h
    rw [List.map_eq_nil_iff.mp hnil]
    have he : t.isEnd = true := beq_of_eq (congrArg Lexeme.kind ht)
    exact .ended rfl he he trivial
  | cons l ls ih =>
    obtain ⟨hl, hls⟩ := List.forall_mem_cons.mp hls
    obtain ⟨t, ts, rfl, ht, hrest⟩ := List.map_eq_cons_iff.mp h
    obtain ⟨hbreak, hts⟩ := List.forall_mem_cons.mp hts
    have hk : t.kind = l.kind := congrArg Lexeme.kind ht
    have hsame : relaid.Same t.respaced t := ⟨rfl, rfl, trivial, trivial⟩
    exact .cons (beq_false_of_ne (hk ▸ hl)) hsame
      (fun _ => ⟨hsame, hblank.trans hbreak.symm, trivial⟩) (ih hls hrest hts)

theorem beside_respaced (hls : ∀ l ∈ ls, l.kind ≠ .endOfText)
    (h : (c.current :: c.rest).map Token.lexeme = ls ++ [.ending])
    (hrest : ∀ t ∈ c.rest, t.breaksLine = false) : relaid.Beside true c.respaced c := by
  refine ⟨nofun, ?_, trivial, trivial, absurd rfl⟩
  show relaid.Left true (c.current.respaced :: c.rest.map Token.respaced) (c.current :: c.rest)
  cases ls with
  | nil =>
    obtain ⟨ht, hnil⟩ := List.cons.inj h
    rw [List.map_eq_nil_iff.mp hnil]
    have he : c.current.isEnd = true := beq_of_eq (congrArg Lexeme.kind ht)
    exact .ended rfl he he trivial
  | cons l ls =>
    obtain ⟨hl, hls⟩ := List.forall_mem_cons.mp hls
    obtain ⟨ht, hts⟩ := List.cons.inj h
    have hk : c.current.kind = l.kind := congrArg Lexeme.kind ht
    exact .cons (beq_false_of_ne (hk ▸ hl)) ⟨rfl, rfl, trivial, trivial⟩ nofun
      (left_respaced hls hts hrest)

end Comparison

/-- **A script is read as it is printed**, whatever blanks stand between its tokens, if no line
breaks after the first of them. -/
theorem PrintableScript.exists_script (s : PrintableScript)
    (hfits : nestingOf s.statements ≤ Parser.maxNesting)
    (h : (c.current :: c.rest).map Token.lexeme = s.lexemes ++ [.ending])
    (hrest : ∀ t ∈ c.rest, t.breaksLine = false) :
    ∃ ms ns stop, Parser.script c = .ok (ns, stop)
      ∧ List.Forall₂ Expression.Stated s.statements ms
      ∧ List.Forall₂ Comparison.relaid.Like ms ns := by
  obtain ⟨ms, stop, hrun, hms, _⟩ := (s.comes_script (Cursor.faces_respaced h)).1 hfits
  have hfollows := Comparison.follows_script rfl
    (Comparison.beside_respaced (fun l hl => (s.scans l hl).kind_ne) h hrest)
  rw [hrun] at hfollows
  generalize Parser.script c = r at hfollows
  cases hfollows with
  | gone hm => exact absurd rfl hm
  | @ok _ ns _ stop' hns => exact ⟨ms, ns, stop', rfl, hms, hns.1⟩

end TypeTest
