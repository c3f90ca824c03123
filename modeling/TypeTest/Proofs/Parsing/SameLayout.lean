import TypeTest.Proofs.Parsing.Separated

/-!
# Layout does not change the tree

Two texts have the **same layout** if they have the same tokens and lines break before the
same ones of them; what blanks and comments stand between the tokens is left open, and so are
all offsets. Such texts are refused for the same cause, or their trees are the same node for
node (`ScriptFile.parse_sameLayout`).

The parser asks a token for its kind and its characters, and whether a line breaks before it,
and nowhere looks back into the text; so two runs that start **side by side** stay there. What
a tree can show of the layout are its ranges, and the texts of types, which are kept as they
were written. Such a text is a run of tokens and is scanned again as that run, so in the two
trees **the texts of a type have the same layout** again: the relation of the texts is that of
their parts.
-/

namespace TypeTest

open TypeTest.Parser

/-! ## Layout -/

instance : DecidableEq Lexeme := fun l m =>
  decidable_of_iff (l.kind = m.kind ∧ l.text = m.text)
    ⟨fun h => by
      cases l
      cases m
      exact congr (congrArg Lexeme.mk h.1) h.2, fun h => h ▸ ⟨rfl, rfl⟩⟩

/-- **Tokens laid out alike**: they are of the same kinds, with the same characters, and lines
break before the same ones of them. What stands before the first token, or at the end of the
text, makes no difference. -/
structure Token.SameLayout (ts us : List Token) : Prop where
  lexemes : ts.map Token.lexeme = us.map Token.lexeme
  breaks : ts.tail.dropLast.map Token.breaksLine = us.tail.dropLast.map Token.breaksLine

instance (ts us : List Token) : Decidable (Token.SameLayout ts us) :=
  decidable_of_iff (ts.map Token.lexeme = us.map Token.lexeme
      ∧ ts.tail.dropLast.map Token.breaksLine = us.tail.dropLast.map Token.breaksLine)
    ⟨fun h => ⟨h.1, h.2⟩, fun h => ⟨h.lexemes, h.breaks⟩⟩

/-- **Texts of the same layout**: both are scanned, into tokens that are laid out alike. -/
def SameLayout (a b : String) : Prop :=
  ∃ ts us, tokenize a = .ok ts ∧ tokenize b = .ok us ∧ Token.SameLayout ts us

instance (a b : String) : Decidable (SameLayout a b) :=
  match ha : tokenize a, hb : tokenize b with
  | .ok ts, .ok us =>
    decidable_of_iff (Token.SameLayout ts us)
      ⟨fun h => ⟨ts, us, ha, hb, h⟩, fun ⟨_, _, ha', hb', h⟩ => by
        cases ha.symm.trans ha'
        cases hb.symm.trans hb'
        exact h⟩
  | .error _, _ => .isFalse fun ⟨_, _, ha', _⟩ => (nomatch ha.symm.trans ha')
  | _, .error _ => .isFalse fun ⟨_, _, _, hb', _⟩ => (nomatch hb.symm.trans hb')

/-- **Nodes that differ in layout alone**: they and all nodes below them are of the same forms,
with the same names and values, and were stored in the same order; the texts of types have the
same layout. Ranges are not compared. -/
inductive Node.Relaid : Node → Node → Prop where
  | mk {form form' : Form Node} {range range' : TextRange} {index : Nat} :
    Form.Like Node.Relaid SameLayout form form' →
    Node.Relaid (.mk form range index) (.mk form' range' index)

variable {a b name name' : String} {ts us vs ws rest rest' : List Token}

/-! ## Types keep their layout -/

/-- A run of tokens that is scanned again has the layout that it had in its text. -/
theorem map_breaksLine_of_piece {l : Lexeme} {p : Piece}
    (h : vs.map Token.piece = ⟨"", l⟩ :: ts.map Token.piece ++ [p]) :
    vs.tail.dropLast.map Token.breaksLine = ts.map Token.breaksLine := by
  have hpieces : vs.tail.dropLast.map Token.piece = ts.map Token.piece := by
    rw [List.map_dropLast, List.map_tail, h, List.cons_append, List.tail_cons,
      List.dropLast_concat]
  have hbreaks : Token.breaksLine = (fun p : Piece => p.gap.toList.contains '\n') ∘ Token.piece :=
    rfl
  rw [hbreaks, ← List.map_map, hpieces, List.map_map]

theorem map_lexeme_of_piece {l : Lexeme} {p : Piece}
    (h : vs.map Token.piece = ⟨"", l⟩ :: ts.map Token.piece ++ [p]) :
    vs.map Token.lexeme = l :: ts.map Token.lexeme ++ [p.lexeme] := by
  have hlexeme : Token.lexeme = Piece.lexeme ∘ Token.piece := rfl
  rw [hlexeme, ← List.map_map, h, List.map_append, List.map_cons, List.map_map]
  rfl

/-- **Types over corresponding runs of tokens have the same layout.** -/
theorem sameLayout_spelling (hts : tokenize a = .ok ts) (hus : tokenize b = .ok us)
    (hv : vs ++ rest <:+ ts) (hw : ws ++ rest' <:+ us) (hne : rest ≠ []) (hne' : rest' ≠ [])
    (h : List.Forall₂ (fun t u => t.lexeme = u.lexeme ∧ t.breaksLine = u.breaksLine) vs ws) :
    SameLayout (spelling vs) (spelling ws) := by
  obtain ⟨before, rfl⟩ := hv
  obtain ⟨before', rfl⟩ := hw
  cases h with
  | nil =>
    have hempty : tokenize (spelling []) = .ok [⟨.endOfText, "", "", 0⟩] :=
      tokenize_eq_ok.mpr (tokensFrom_nil 0)
    exact ⟨_, _, hempty, hempty, rfl, rfl⟩
  | @cons t u vs ws htu h =>
    rw [← List.append_assoc] at hts hus
    obtain ⟨xs, hxs, hpieces⟩ := exists_tokenize_spelling hts hne
    obtain ⟨ys, hys, hpieces'⟩ := exists_tokenize_spelling hus hne'
    have hlexemes : vs.map Token.lexeme = ws.map Token.lexeme := by
      rw [← List.forall₂_eq_eq_eq, List.forall₂_map_left_iff, List.forall₂_map_right_iff]
      exact h.imp fun _ _ h => h.1
    have hbreaks : vs.map Token.breaksLine = ws.map Token.breaksLine := by
      rw [← List.forall₂_eq_eq_eq, List.forall₂_map_left_iff, List.forall₂_map_right_iff]
      exact h.imp fun _ _ h => h.2
    refine ⟨xs, ys, hxs, hys, ?_, ?_⟩
    · rw [map_lexeme_of_piece hpieces, map_lexeme_of_piece hpieces', hlexemes, htu.1]
    · rw [map_breaksLine_of_piece hpieces, map_breaksLine_of_piece hpieces', hbreaks]

/-! ## The comparison -/

namespace Comparison

/-- **Two texts that are laid out alike**, and what is left of each. -/
def laidOut (hts : tokenize a = .ok ts) (hus : tokenize b = .ok us) : Comparison where
  Offsets _ _ := True
  Trivia s s' := s.toList.contains '\n' = s'.toList.contains '\n'
  Tails vs ws := vs <:+ ts ∧ ws <:+ us
  Indices := Eq
  Ranges _ _ := True
  Texts := SameLayout
  Like := Node.Relaid
  more := none
  ranges _ _ := trivial
  tail h := ⟨(List.suffix_cons _ _).trans h.1, (List.suffix_cons _ _).trans h.2⟩
  texts htails hne hne' h := sameLayout_spelling hts hus htails.1 htails.2 hne hne' h
  succ h := congrArg (· + 1) h
  like hform _ hindex := by
    subst hindex
    exact .mk hform
  free h := absurd rfl h
  unnumbered h := absurd rfl h

variable {hts : tokenize a = .ok ts} {hus : tokenize b = .ok us}

theorem same_laidOut {t u : Token} (h : t.lexeme = u.lexeme) : (laidOut hts hus).Same t u :=
  ⟨congrArg Lexeme.kind h, congrArg Lexeme.text h, trivial, trivial⟩

/-- Texts that are laid out alike end together. -/
theorem left_laidOut_end {fresh : Bool} {e : Token} (he : e.isEnd = true)
    (h : [e].map Token.lexeme = ws.map Token.lexeme) : (laidOut hts hus).Left fresh [e] ws := by
  obtain ⟨e', _, rfl, he', hnil⟩ := List.map_eq_cons_iff.mp h.symm
  rw [List.map_eq_nil_iff.mp hnil]
  have hkind : e'.kind = e.kind := congrArg Lexeme.kind he'
  have hend : e'.isEnd = true := by
    unfold Token.isEnd
    rw [hkind]
    exact he
  exact .ended rfl he hend trivial

/-- **Tokens that are laid out alike correspond** up to the end, if lines break before the same
ones of them. -/
theorem left_laidOut {init : List Token} {e : Token} (hinit : ∀ t ∈ init, t.isEnd = false)
    (he : e.isEnd = true) (hlexemes : (init ++ [e]).map Token.lexeme = ws.map Token.lexeme)
    (hbreaks : init.map Token.breaksLine = ws.dropLast.map Token.breaksLine) :
    (laidOut hts hus).Left false (init ++ [e]) ws := by
  induction init generalizing ws with
  | nil => exact left_laidOut_end he hlexemes
  | cons t init ih =>
    obtain ⟨ht, hinit⟩ := List.forall_mem_cons.mp hinit
    obtain ⟨u, ws, rfl, hu, hlexemes⟩ := List.map_eq_cons_iff.mp hlexemes.symm
    have hne : ws ≠ [] := by
      rintro rfl
      exact List.append_ne_nil_of_right_ne_nil init (List.cons_ne_nil e [])
        (List.map_eq_nil_iff.mp hlexemes.symm)
    rw [List.dropLast_cons_of_ne_nil hne, List.map_cons, List.map_cons] at hbreaks
    obtain ⟨hbreak, hbreaks⟩ := List.cons.inj hbreaks
    have hsame : (laidOut hts hus).Same t u := same_laidOut hu.symm
    exact .cons ht hsame (fun _ => ⟨hsame, hbreak, hbreak⟩) (ih hinit hlexemes.symm hbreaks)

/-- **Texts that are laid out alike start side by side.** Nothing is known of what stands before
their first tokens. -/
theorem beside_laidOut (h : Token.SameLayout ts us) :
    (laidOut hts hus).Beside true (.ofTokens ts) (.ofTokens us) := by
  obtain ⟨init, e, rfl, he, hinit⟩ := (inOrder_tokenize hts).last
  have hleft : (laidOut hts hus).Left true (init ++ [e]) us := by
    cases init with
    | nil => exact left_laidOut_end he h.lexemes
    | cons t init =>
      obtain ⟨ht, hinit⟩ := List.forall_mem_cons.mp hinit
      obtain ⟨u, us', rfl, hu, hlexemes⟩ := List.map_eq_cons_iff.mp h.lexemes.symm
      have hbreaks := h.breaks
      rw [List.cons_append, List.tail_cons, List.dropLast_concat] at hbreaks
      exact .cons ht (same_laidOut hu.symm) nofun (left_laidOut hinit he hlexemes.symm hbreaks)
  obtain ⟨_, _, u, us', _, rfl⟩ := hleft.exists_cons
  exact hleft.beside ⟨List.suffix_refl _, List.suffix_refl _⟩ rfl (absurd rfl) rfl

end Comparison

/-! ## Trees -/

/-- **Texts that are laid out alike are refused for the same cause, or their trees differ in
layout alone.** -/
theorem parseTree_sameLayout (h : SameLayout a b) :
    (∃ fault fault', parseTree a = .error fault ∧ parseTree b = .error fault'
      ∧ fault.cause = fault'.cause)
    ∨ ∃ root root', parseTree a = .ok root ∧ parseTree b = .ok root' ∧ root.Relaid root' := by
  obtain ⟨ts, us, hts, hus, h⟩ := h
  have hfollows := Comparison.follows_script (K := Comparison.laidOut hts hus) rfl
    (Comparison.beside_laidOut h)
  unfold parseTree
  rw [hts, hus]
  dsimp only
  generalize script (.ofTokens ts) = r, script (.ofTokens us) = r' at hfollows ⊢
  cases hfollows with
  | fault hcause => exact .inl ⟨_, _, rfl, rfl, hcause rfl⟩
  | gone hmore => exact absurd rfl hmore
  | @ok ns ns' c c' hns =>
    have hindex : c.nextIndex = c'.nextIndex := hns.2.indices
    refine .inr ⟨_, _, rfl, rfl, ?_⟩
    unfold Cursor.newNode
    rw [hindex]
    exact .mk (.sourceFile hns.1)

namespace ScriptFile

/-- **Layout does not change the tree**: two texts with the same tokens, in which lines break
before the same ones of them, are both refused, for the same cause, or both parsed, to trees
that are the same node for node but for ranges and what stands between the tokens of types. -/
theorem parse_sameLayout (h : SameLayout a b) (name name' : String) :
    (∃ cause position position', parse name a = .error (.malformed cause (some name) position)
      ∧ parse name' b = .error (.malformed cause (some name') position'))
    ∨ ∃ fa fb, parse name a = .ok fa ∧ parse name' b = .ok fb ∧ fa.root.Relaid fb.root := by
  rcases parseTree_sameLayout h with ⟨fault, fault', ha, hb, hcause⟩ | ⟨root, root', ha, hb, hroot⟩
  · refine .inl ⟨fault.cause, .ofOffset a.toList fault.offset, .ofOffset b.toList fault'.offset,
      parse_of_error ha, ?_⟩
    rw [hcause]
    exact parse_of_error hb
  · exact .inr ⟨_, _, parse_of_ok ha, parse_of_ok hb, hroot⟩

/-- A call with blanks and comments between its tokens. -/
def looseCall : String := "f<A /* , */ | B>(x as C |\n  D) // y"

/-- The same call with a line break and a comment in other places. -/
def tightCall : String := "\nf<A|B>(x as C|//;\nD)"

/-- **The same call in two layouts** is parsed to trees that differ in layout alone. -/
theorem parse_sameLayout_call :
    SameLayout looseCall tightCall
      ∧ ∃ fa fb, parse "a.ts" looseCall = .ok fa ∧ parse "b.ts" tightCall = .ok fb
        ∧ fa.root.Relaid fb.root := by
  have hlayout : SameLayout looseCall tightCall := by decide +kernel
  have hok : (parse "a.ts" looseCall).toOption.isSome = true := by decide +kernel
  refine ⟨hlayout, (parse_sameLayout hlayout "a.ts" "b.ts").resolve_left ?_⟩
  rintro ⟨_, _, _, herror, _⟩
  rw [herror] at hok
  cases hok

end ScriptFile

end TypeTest
