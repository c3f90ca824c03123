import TypeTest.Proofs.Parsing.TypeScans
import TypeTest.Proofs.Printing.Facing

/-!
# Printed types are read as they are

A type is read by counting brackets, so all that is asked of printed ones is that they
are **well bracketed** and that none of the characters that may end them stands outside
of brackets. The text of the node is then the printed text: the tokens of a type keep
the blanks between them.
-/

namespace TypeTest

/-- The brackets of types, each with the one that closes it. -/
def bracketPairs : List (Char × Char) := [('(', ')'), ('[', ']'), ('\x7b', '\x7d'), ('<', '>')]

/-- Whether a lexeme is a bracket. -/
def Lexeme.isBracket (l : Lexeme) : Bool :=
  match l.kind with
  | .punct p => bracketPairs.any fun pair => p == pair.1 || p == pair.2
  | _ => false

/-- **Well-bracketed lexemes**: a bracket is closed by the one that belongs to it, and
outside of brackets stands none of the characters `stops`. -/
inductive Bracketed : List Char → List Lexeme → Prop where
  | nil {stops : List Char} : Bracketed stops []
  | plain {stops : List Char} {l : Lexeme} {ls : List Lexeme} : l.isBracket = false →
    (∀ p ∈ stops, l.kind ≠ .punct p) → Bracketed stops ls → Bracketed stops (l :: ls)
  | nested {stops : List Char} {o p : Char} {inner ls : List Lexeme} : (o, p) ∈ bracketPairs →
    Bracketed [] inner → Bracketed stops ls →
    Bracketed stops (.mark o :: (inner ++ .mark p :: ls))

/-- What is neither a bracket nor the mark that ends a text may stand in it. -/
theorem Bracketed.beside {stop : Char} {l : Lexeme} {ls : List Lexeme} (hl : l.isBracket = false)
    (hstop : l.kind ≠ .punct stop) (h : Bracketed [stop] ls) : Bracketed [stop] (l :: ls) :=
  .plain hl (List.forall_mem_singleton.mpr hstop) h

/-- **Well-bracketed lexemes**, those outside of brackets and no brackets themselves having a
property. -/
inductive Level : (Lexeme → Prop) → List Lexeme → Prop where
  | nil {P : Lexeme → Prop} : Level P []
  | plain {P : Lexeme → Prop} {l : Lexeme} {ls : List Lexeme} : l.isBracket = false → P l →
    Level P ls → Level P (l :: ls)
  | nested {P : Lexeme → Prop} {o p : Char} {inner ls : List Lexeme} : (o, p) ∈ bracketPairs →
    Level (fun _ => True) inner → Level P ls → Level P (.mark o :: (inner ++ .mark p :: ls))

theorem Level.imp {P Q : Lexeme → Prop} {ls : List Lexeme} (h : Level P ls)
    (hPQ : ∀ l, P l → Q l) : Level Q ls := by
  induction h with
  | nil => exact .nil
  | plain hl hP _ ih => exact .plain hl (hPQ _ hP) (ih hPQ)
  | nested hpair hinner _ _ ih => exact .nested hpair hinner (ih hPQ)

theorem Bracketed.level {stops : List Char} {ls : List Lexeme} (h : Bracketed stops ls) :
    Level (fun l => ∀ p ∈ stops, l.kind ≠ .punct p) ls := by
  induction h with
  | nil => exact .nil
  | plain hl hstops _ ih => exact .plain hl hstops ih
  | nested hpair _ _ ihinner ih => exact .nested hpair (ihinner.imp fun _ _ => trivial) ih

/-- **A printed type**: lexemes that are well bracketed, with none of `stops` outside of
brackets. There is at least one. -/
structure TypeLexemes (stops : List Char) where
  lexemes : List Lexeme
  scans : ∀ l ∈ lexemes, l.Scans
  ne_nil : lexemes ≠ []
  bracketed : Bracketed stops lexemes

/-- The text of a printed type. -/
def TypeLexemes.text {stops : List Char} (type : TypeLexemes stops) : String :=
  printed type.lexemes

/-- A lexeme that scans is not the end of the text. -/
theorem Lexeme.Scans.kind_ne {l : Lexeme} (h : l.Scans) : l.kind ≠ .endOfText := by
  obtain ⟨_, _, _, _, hs⟩ := h
  exact scanToken_ne_end hs

/-- Tokens after single blanks spell what their lexemes print. -/
theorem spelling_eq_printed {t : Token} {ts : List Token} (h : ∀ u ∈ ts, u.trivia = " ") :
    Parser.spelling (t :: ts) = printed ((t :: ts).map Token.lexeme) := by
  have hfold : ∀ (ts : List Token) (text : String), (∀ u ∈ ts, u.trivia = " ") →
      ts.foldl (fun text u => text ++ u.trivia ++ u.text) text
        = " ".intercalate (text :: ts.map Token.text) := by
    intro ts
    induction ts with
    | nil => exact fun text _ => String.intercalate_singleton.symm
    | cons u ts ih =>
      intro text h
      obtain ⟨hu, hts⟩ := List.forall_mem_cons.mp h
      rw [List.foldl_cons, ih _ hts, hu, String.intercalate_cons_append, List.map_cons,
        String.intercalate_cons_cons]
  show ts.foldl _ t.text = _
  rw [hfold ts t.text h, printed, List.map_map]
  rfl

/-- What is no bracket is none of the brackets. -/
theorem Lexeme.kind_ne_of_isBracket {l : Lexeme} (h : l.isBracket = false) {p : Char}
    (hp : p ∈ '<' :: Parser.openers ∨ p ∈ '>' :: Parser.closers) : l.kind ≠ .punct p := by
  intro hk
  unfold isBracket at h
  rw [hk] at h
  have hall : (('<' :: Parser.openers) ++ ('>' :: Parser.closers)).all
      (fun q => bracketPairs.any fun pair => q == pair.1 || q == pair.2) = true := by decide
  exact Bool.false_ne_true
    (h.symm.trans (List.all_eq_true.mp hall p (List.mem_append.mpr hp)))

namespace Parser

variable {c : Cursor} {stops : List Char} {ends : Token → Bool} {rest : List Lexeme}

/-- Opening and closing brackets are told apart. -/
theorem contains_of_mem_bracketPairs : ∀ pair ∈ bracketPairs,
    ('<' :: openers).contains pair.1 = true ∧ ('>' :: closers).contains pair.1 = false
      ∧ ('>' :: closers).contains pair.2 = true ∧ ('<' :: openers).contains pair.2 = false := by
  decide

/-- Brackets that count inside of parentheses are told apart; angle brackets do not count. -/
theorem contains_or_angle_of_mem_bracketPairs : ∀ pair ∈ bracketPairs,
    (openers.contains pair.1 = true ∧ openers.contains pair.2 = false
      ∧ closers.contains pair.2 = true)
    ∨ pair = ('<', '>') := by
  decide

/-- **The scan of a type passes well-bracketed tokens** on a line and comes back to its depth, if
those outside of brackets do not end the type, and brackets that open do not either. -/
theorem typePasses_of_level (ends : Token → Bool) {P : Lexeme → Prop} {ls : List Lexeme}
    (h : Level P ls)
    (hopen : ∀ t : Token, ∀ pair ∈ bracketPairs, t.lexeme = .mark pair.1 → ends t = false) :
    ∀ (depth : Nat) (us : List Token), (depth = 0 → ∀ t : Token, P t.lexeme → ends t = false) →
      (∀ l ∈ ls, l.kind ≠ .endOfText) → (∀ u ∈ us, u.breaksLine = false) →
      us.map Token.lexeme = ls →
      typePasses ends depth us = true ∧ us.foldl typeDepth depth = depth := by
  induction h with
  | nil =>
    intro depth us _ _ _ hus
    rw [List.map_eq_nil_iff.mp hus]
    exact ⟨rfl, rfl⟩
  | @plain P l ls hl hP _ ih =>
    intro depth us hends hend hbreak hus
    obtain ⟨u, us, rfl, hu, hus⟩ := List.map_eq_cons_iff.mp hus
    obtain ⟨hkind, hend⟩ := List.forall_mem_cons.mp hend
    obtain ⟨hline, hbreak⟩ := List.forall_mem_cons.mp hbreak
    have hu' : u.kind = l.kind := congrArg Lexeme.kind hu
    have hnone : ∀ qs : List Char, (∀ q ∈ qs, q ∈ '<' :: openers ∨ q ∈ '>' :: closers) →
        u.isPunctOf qs = false := by
      exact fun qs hqs => Token.isPunctOf_of_kind_ne fun q hq =>
        hu' ▸ Lexeme.kind_ne_of_isBracket hl (hqs q hq)
    have hdepth : typeDepth depth u = depth := by
      unfold typeDepth
      rw [hnone _ (fun q hq => .inl hq), hnone _ (fun q hq => .inr hq)]
      rfl
    obtain ⟨hpasses, hfold⟩ := ih depth us hends hend hbreak hus
    refine ⟨?_, by rw [List.foldl_cons, hdepth, hfold]⟩
    have hnotEnd : u.isEnd = false := beq_false_of_ne (hu' ▸ hkind)
    rw [typePasses, hdepth, hpasses, hnone _ (fun q hq => .inr hq), hline, hnotEnd]
    rcases Nat.eq_zero_or_pos depth with h₀ | hpos
    · rw [hends h₀ u (hu ▸ hP)]
      simp
    · rw [bne_iff_ne.mpr (Nat.ne_of_gt hpos)]
      rfl
  | @nested P o p inner ls hpair _ _ ihinner ih =>
    intro depth us hends hend hbreak hus
    obtain ⟨u, us, rfl, hu, hus⟩ := List.map_eq_cons_iff.mp hus
    obtain ⟨vs, us, rfl, hvs, hus⟩ := List.map_eq_append_iff.mp hus
    obtain ⟨v, us, rfl, hv, hus⟩ := List.map_eq_cons_iff.mp hus
    obtain ⟨_, hend⟩ := List.forall_mem_cons.mp hend
    obtain ⟨hendInner, hend⟩ := List.forall_mem_append.mp hend
    obtain ⟨_, hend⟩ := List.forall_mem_cons.mp hend
    obtain ⟨hline, hbreak⟩ := List.forall_mem_cons.mp hbreak
    obtain ⟨hbreakInner, hbreak⟩ := List.forall_mem_append.mp hbreak
    obtain ⟨_, hbreak⟩ := List.forall_mem_cons.mp hbreak
    obtain ⟨ho, ho', hp, hp'⟩ := contains_of_mem_bracketPairs (o, p) hpair
    have hnotEnd : ∀ {w : Token} {q : Char}, w.lexeme = .mark q → w.isEnd = false := by
      intro w q hw
      exact beq_false_of_ne ((congrArg Lexeme.kind hw).trans_ne TokenKind.noConfusion)
    -- the opening bracket, what stands in the brackets, and the closing one
    have hdeeper : typeDepth depth u = depth + 1 := by
      unfold typeDepth
      rw [Token.isPunctOf_of_lexeme hu, ho, if_pos rfl]
    have hback : typeDepth (depth + 1) v = depth := by
      unfold typeDepth
      rw [Token.isPunctOf_of_lexeme hv, Token.isPunctOf_of_lexeme hv, hp, hp',
        if_neg Bool.false_ne_true, if_pos rfl]
      rfl
    obtain ⟨hpassesInner, hfoldInner⟩ := ihinner (depth + 1) vs
      (fun h => absurd h (Nat.succ_ne_zero _)) hendInner hbreakInner hvs
    obtain ⟨hpasses, hfold⟩ := ih depth us hends hend hbreak hus
    refine ⟨?_, ?_⟩
    · have hgo : (ends u || u.isPunctOf ('>' :: closers) || u.breaksLine) = false := by
        rw [hopen u _ hpair hu, Token.isPunctOf_of_lexeme hu, ho', hline]
        rfl
      have hinside : (depth + 1 != 0) = true := rfl
      rw [typePasses, hgo, hdeeper, typePasses_append, hpassesInner, hfoldInner, typePasses, hback,
        hpasses, hnotEnd hu, hnotEnd hv, hinside]
      simp
    · rw [List.foldl_cons, hdeeper, List.foldl_append, hfoldInner, List.foldl_cons, hback, hfold]

/-- **Well-bracketed lexemes on a line are read as a type**, up to a mark that ends it. -/
theorem comes_typeUntil_of_level (hends : ∀ t, ends t = t.isPunctOf stops)
    (hopen : ∀ pair ∈ bracketPairs, stops.contains pair.1 = false) {ls : List Lexeme}
    (hls : Level (fun l => ∀ p ∈ stops, l.kind ≠ .punct p) ls) (hscans : ∀ l ∈ ls, l.Scans)
    (hnil : ls ≠ []) (lineBreaksEnd : Bool) {p : Char}
    (hp : (stops ++ '>' :: closers).contains p = true) (hc : c.Faces (ls ++ .mark p :: rest)) :
    Comes (typeUntil ends lineBreaksEnd c) True (fun n => n.form = .typeText (printed ls))
      (.mark p :: rest) := by
  obtain ⟨us, vs, htokens, hus, hvs⟩ :=
    List.map_eq_append_iff.mp (hc.lexemes.trans (List.append_assoc _ _ _))
  obtain ⟨t, ts, rfl, ht, hts⟩ := List.map_eq_cons_iff.mp hvs
  have hbreak : ∀ u ∈ us, u.breaksLine = false := fun u hu =>
    hc.breaksLine_of_mem (htokens ▸ List.mem_append_left _ hu)
  obtain ⟨hpasses, hfold⟩ := typePasses_of_level ends hls
    (fun t pair hpair ht => by rw [hends, Token.isPunctOf_of_lexeme ht, hopen pair hpair]) 0 us
    (fun _ t ht => (hends t).trans (Token.isPunctOf_of_kind_ne ht))
    (fun l hl => (hscans l hl).kind_ne) hbreak hus
  have hne : us ≠ [] := by
    rintro rfl
    exact hnil hus.symm
  have hstop : (ends t || t.isPunctOf ('>' :: closers)) = true := by
    rw [hends, Token.isPunctOf_of_lexeme ht, Token.isPunctOf_of_lexeme ht]
    rw [List.contains_append] at hp
    exact hp
  obtain ⟨c', hrun, hc'⟩ := exists_typeUntil_of_passes lineBreaksEnd htokens hne hpasses
    (.inr ⟨hfold, hstop⟩)
  have hfaces : c'.Faces (.mark p :: rest) := by
    refine hc.of_suffix ⟨us, by rw [htokens, hc']⟩ ?_
    rw [hc', List.map_cons, ht, hts]
    rfl
  -- every token but the first one stands after a blank
  obtain ⟨u, us, rfl⟩ := List.exists_cons_of_ne_nil hne
  have htrivia : ∀ u ∈ us, u.trivia = " " := by
    intro u hu
    have hrest := (List.cons.inj htokens).2
    refine (hc.spaced u (hrest ▸ List.mem_append_left _ hu)).resolve_right (fun he => ?_)
    have hmem : u.lexeme ∈ ls := hus ▸ List.mem_map_of_mem (List.mem_cons_of_mem _ hu)
    exact (hscans _ hmem).kind_ne (eq_of_beq he.1)
  rw [hrun]
  refine .of_ok ?_ hfaces.store trivial
  show Form.typeText (spelling (u :: us)) = _
  rw [spelling_eq_printed htrivia, hus]

/-- **A printed type is read as its text.** -/
theorem comes_typeUntil (hends : ∀ t, ends t = t.isPunctOf stops)
    (hopen : ∀ pair ∈ bracketPairs, stops.contains pair.1 = false) (type : TypeLexemes stops)
    {p : Char} (hp : (stops ++ '>' :: closers).contains p = true)
    (hc : c.Faces (type.lexemes ++ .mark p :: rest)) :
    Comes (typeUntil ends false c) True (fun n => n.form = .typeText type.text)
      (.mark p :: rest) :=
  comes_typeUntil_of_level hends hopen type.bracketed.level type.scans type.ne_nil false hp hc

theorem isPunct_eq_isPunctOf (t : Token) (p : Char) : t.isPunct p = t.isPunctOf [p] := by
  unfold Token.isPunct Token.isPunctOf
  split
  · rename_i q hq
    rw [hq, Bool.eq_iff_iff, beq_iff_eq, List.contains_iff_mem, List.mem_singleton,
      TokenKind.punct.injEq]
  · rename_i hq
    exact beq_false_of_ne (hq p)

/-- **Printed type arguments are read** where the arguments of a call follow. -/
theorem exists_typeArguments {type : TypeLexemes [',']} {types : List (TypeLexemes [','])}
    (hc : c.Faces (.mark '<' :: (commas ((type :: types).map TypeLexemes.lexemes)
      ++ .mark '>' :: .mark '(' :: rest))) :
    ∃ ns c', typeArguments c = .ok (some ns, c')
      ∧ List.Forall₂ (fun (t : TypeLexemes [',']) (n : Node) => n.form = .typeText t.text)
        (type :: types) ns
      ∧ c'.Faces (.mark '(' :: rest) := by
  have hlist : Comes (angleList (typeUntil (·.isPunct ',') false) c)
      (∀ t ∈ type :: types, (fun _ => True) t)
      (List.Forall₂ (fun (t : TypeLexemes [',']) (n : Node) => n.form = .typeText t.text)
        (type :: types)) (.mark '(' :: rest) := by
    refine comes_angleList (fun t _ p hp c rest hc => ?_) hc
    refine comes_typeUntil (isPunct_eq_isPunctOf · ',') (by decide) t ?_ hc
    rcases hp with rfl | rfl <;> decide
  obtain ⟨ns, c', hr, hns, hc'⟩ := hlist.1 (fun _ _ => trivial)
  refine ⟨ns, c', ?_, hns, hc'⟩
  have hp : c'.current.isPunct '(' = true := (hc'.isPunct_mark '(').trans rfl
  unfold typeArguments attempt
  rw [hr]
  dsimp only
  rw [if_pos hp]

/-- No type is read where no colon stands. -/
theorem typeAfterColon_of_ne {l : Lexeme} {ls : List Lexeme} (hc : c.Faces (l :: ls))
    (hl : l.kind ≠ .punct ':') (lineBreaksEnd : Bool) :
    typeAfterColon ends lineBreaksEnd c = .ok (none, c) := by
  unfold typeAfterColon
  rw [bind_of_ok _ (accept_of_ne hc hl)]
  rfl

/-! ## Brackets seen from inside of parentheses -/

/-- **The search for an arrow passes lexemes**, inside of a parenthesis, if it is after
them where it was before. -/
def Passes (ls : List Lexeme) : Prop :=
  ∀ (ts us : List Token) (depth : Nat), ts.map Token.lexeme = ls → 0 < depth →
    arrowAhead depth (ts ++ us) = arrowAhead depth us

theorem Passes.nil : Passes [] := by
  intro ts us depth hts _
  rw [List.map_eq_nil_iff.mp hts]
  rfl

theorem Passes.append {ls ms : List Lexeme} (h : Passes ls) (h' : Passes ms) :
    Passes (ls ++ ms) := by
  intro ts us depth hts hd
  obtain ⟨ts₁, ts₂, rfl, h₁, h₂⟩ := List.map_eq_append_iff.mp hts
  rw [List.append_assoc, h ts₁ _ depth h₁ hd, h' ts₂ us depth h₂ hd]

/-- A lexeme that is neither a bracket that counts nor the end is passed. -/
theorem Passes.cons {l : Lexeme} {ls : List Lexeme}
    (hl : ∀ p ∈ openers ++ closers, l.kind ≠ .punct p) (he : l.kind ≠ .endOfText)
    (h : Passes ls) : Passes (l :: ls) := by
  intro ts us depth hts hd
  obtain ⟨t, ts, rfl, ht, hts⟩ := List.map_eq_cons_iff.mp hts
  have hk : t.kind = l.kind := congrArg Lexeme.kind ht
  have hnot : ∀ qs : List Char, (∀ q ∈ qs, q ∈ openers ++ closers) → t.isPunctOf qs = false :=
    fun qs hqs => Token.isPunctOf_of_kind_ne fun q hq => hk ▸ hl q (hqs q hq)
  have hend : t.isEnd = false := by
    unfold Token.isEnd
    rw [hk]
    exact beq_false_of_ne he
  rw [List.cons_append, arrowAhead_cons, hnot openers (fun q hq => List.mem_append_left _ hq),
    hnot closers (fun q hq => List.mem_append_right _ hq), hend]
  exact h ts us depth hts hd

/-- What stands in brackets is passed with its brackets. -/
theorem Passes.bracket {o p : Char} {inner ls : List Lexeme} (ho : openers.contains o = true)
    (hp : openers.contains p = false) (hp' : closers.contains p = true) (hi : Passes inner)
    (h : Passes ls) : Passes (.mark o :: (inner ++ .mark p :: ls)) := by
  intro ts us depth hts hd
  obtain ⟨t, ts, rfl, ht, hts⟩ := List.map_eq_cons_iff.mp hts
  obtain ⟨ts₁, ts₂, rfl, h₁, h₂⟩ := List.map_eq_append_iff.mp hts
  obtain ⟨u, ts₂, rfl, hu, h₂⟩ := List.map_eq_cons_iff.mp h₂
  have hgo : ¬ depth + 1 ≤ 1 := by omega
  rw [List.cons_append, arrowAhead_cons, Token.isPunctOf_of_lexeme ht, ho, if_pos rfl,
    List.append_assoc, hi ts₁ _ (depth + 1) h₁ (Nat.succ_pos _), List.cons_append, arrowAhead_cons,
    Token.isPunctOf_of_lexeme hu, Token.isPunctOf_of_lexeme hu, hp, hp', if_neg Bool.false_ne_true,
    if_pos rfl, if_neg hgo, Nat.add_sub_cancel]
  exact h ts₂ us depth h₂ hd

/-- **Well-bracketed lexemes are passed.** -/
theorem Passes.of_bracketed {stops : List Char} {ls : List Lexeme} (h : Bracketed stops ls)
    (hend : ∀ l ∈ ls, l.kind ≠ .endOfText) : Passes ls := by
  induction h with
  | nil => exact .nil
  | plain hl _ _ ih =>
    obtain ⟨he, hend⟩ := List.forall_mem_cons.mp hend
    exact .cons (fun p hp => Lexeme.kind_ne_of_isBracket hl
      ((List.mem_append.mp hp).imp (List.mem_cons_of_mem _) (List.mem_cons_of_mem _))) he (ih hend)
  | @nested stops o p inner ls hpair _ _ ihinner ih =>
    obtain ⟨_, hend⟩ := List.forall_mem_cons.mp hend
    obtain ⟨hendInner, hend⟩ := List.forall_mem_append.mp hend
    obtain ⟨_, hend⟩ := List.forall_mem_cons.mp hend
    have hinner := ihinner hendInner
    have hls := ih hend
    rcases contains_or_angle_of_mem_bracketPairs (o, p) hpair with ⟨ho, hp, hp'⟩ | hangles
    · exact hinner.bracket ho hp hp' hls
    · -- angle brackets do not count here
      obtain ⟨rfl, rfl⟩ := Prod.mk.inj hangles
      have hangle : ∀ q ∈ openers ++ closers,
          (Lexeme.mark '<').kind ≠ .punct q ∧ (Lexeme.mark '>').kind ≠ .punct q := by
        simp [openers, closers]
      exact .cons (fun q hq => (hangle q hq).1) TokenKind.noConfusion
        (hinner.append (.cons (fun q hq => (hangle q hq).2) TokenKind.noConfusion hls))

end Parser

end TypeTest
