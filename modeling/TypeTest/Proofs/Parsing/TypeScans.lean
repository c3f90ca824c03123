import TypeTest.Proofs.Parsing.Running
import TypeTest.Proofs.Printing.Lexemes

/-!
# Where the scan of a type goes

A type is read over the tokens that are left, and the cursor matters only as the place where
they start. Whether the scan **stops** in front of a token is a matter of the depth, of the token
and, where a line breaks, of the token that was taken before it (`typeStops`). So a type is what
the scan **goes** over, up to the first token that it stops in front of (`exists_typeUntil_eq`),
and there are such tokens in every text (`exists_typeSplit`).

Where no line breaks outside of brackets, what was taken before does not matter either: the scan
**passes** tokens (`typePasses`).
-/

namespace TypeTest

namespace Parser

variable {c : Cursor} {t : Token} {us ts : List Token} {ends : Token → Bool}

/-! ## Cursors by their tokens -/

theorem current_eq (h : c.current :: c.rest = t :: ts) : c.current = t := (List.cons.inj h).1

theorem append_cons_ne_nil (us : List Token) : us ++ t :: ts ≠ [] :=
  List.append_ne_nil_of_right_ne_nil us (List.cons_ne_nil t ts)

/-- The next token is the current one after a token is taken. -/
theorem next_eq (h : c.current :: c.rest = t :: ts) (hts : ts ≠ []) :
    c.next.current :: c.next.rest = ts := by
  obtain ⟨u, us, rfl⟩ := List.exists_cons_of_ne_nil hts
  obtain ⟨previous, current, rest, stored⟩ := c
  obtain ⟨rfl, rfl⟩ := List.cons.inj h
  rfl

theorem remaining_next_lt (h : c.current :: c.rest = t :: ts) (hts : ts ≠ []) :
    c.next.remaining < c.remaining := by
  obtain ⟨u, us, rfl⟩ := List.exists_cons_of_ne_nil hts
  obtain ⟨previous, current, rest, stored⟩ := c
  obtain ⟨rfl, rfl⟩ := List.cons.inj h
  exact Nat.lt_succ_self _

/-! ## Tokens that are taken -/

/-- **Whether the scan of a type stops in front of a token**, at a depth and behind the token
`last`, if it has taken one: at the end of the text, and outside of brackets where the type ends,
a bracket closes, or a line breaks over which the type does not go on. -/
def typeStops (ends : Token → Bool) (lineBreaksEnd : Bool) (last : Option Token) (depth : Nat)
    (t : Token) : Bool :=
  t.isEnd || (depth == 0 && (ends t || t.isPunctOf ('>' :: closers) ||
    (lineBreaksEnd && last.isSome && t.breaksLine && !typeGoesOn ⟨last, t, [], []⟩)))

/-- Whether the scan of a type goes over tokens, from a depth and behind the token `last`, if it
has taken one. -/
def typeGoes (ends : Token → Bool) (lineBreaksEnd : Bool) : Option Token → Nat → List Token → Bool
  | _, _, [] => true
  | last, depth, t :: ts =>
    !typeStops ends lineBreaksEnd last depth t
      && typeGoes ends lineBreaksEnd (some t) (typeDepth depth t) ts

/-- The cursor ends a type where the scan stops in front of its token, since the token before it
is the one that was taken last. -/
theorem typeEnds_eq (lineBreaksEnd : Bool) (scan : TypeScan)
    (hlast : scan.taken ≠ [] → c.previous = scan.taken.head?) :
    typeEnds ends lineBreaksEnd scan c
      = typeStops ends lineBreaksEnd scan.taken.head? scan.depth c.current := by
  obtain ⟨depth, taken⟩ := scan
  cases taken with
  | nil =>
    unfold typeEnds typeStops
    simp
  | cons u us =>
    obtain ⟨previous, current, rest, stored⟩ := c
    obtain rfl : previous = some u := hlast (List.cons_ne_nil u us)
    unfold typeEnds typeStops Cursor.breaksLine typeGoesOn
    simp

/-- **The scan of a type goes over tokens**, up to one that it stops in front of. -/
theorem exists_typeScan (lineBreaksEnd : Bool) (us : List Token) (scan : TypeScan) (c : Cursor)
    (h : c.current :: c.rest = us ++ t :: ts)
    (hlast : scan.taken ≠ [] → c.previous = scan.taken.head?)
    (hus : typeGoes ends lineBreaksEnd scan.taken.head? scan.depth us = true)
    (ht : typeStops ends lineBreaksEnd (us.reverse ++ scan.taken).head?
      (us.foldl typeDepth scan.depth) t = true) :
    ∃ c', repeatWhile (typeStep ends lineBreaksEnd) scan c
        = .ok (⟨us.foldl typeDepth scan.depth, us.reverse ++ scan.taken⟩, c')
      ∧ c'.current :: c'.rest = t :: ts := by
  induction us generalizing scan c with
  | nil =>
    refine ⟨c, repeatWhile_of_none ?_, h⟩
    unfold typeStep
    rw [typeEnds_eq lineBreaksEnd scan hlast, current_eq h]
    exact if_pos ht
  | cons u us ih =>
    obtain ⟨hgo, hus⟩ := Bool.and_eq_true_iff.mp hus
    have hstep : typeStep ends lineBreaksEnd scan c
        = .ok (some ⟨typeDepth scan.depth u, u :: scan.taken⟩, c.next) := by
      unfold typeStep
      rw [typeEnds_eq lineBreaksEnd scan hlast, current_eq h, (Bool.not_eq_true' _).mp hgo]
      rfl
    have hne : us ++ t :: ts ≠ [] := append_cons_ne_nil us
    have hprevious : c.next.previous = some u := by
      obtain ⟨v, vs, hvs⟩ := List.exists_cons_of_ne_nil hne
      obtain ⟨previous, current, rest, stored⟩ := c
      obtain ⟨rfl, rfl⟩ := List.cons.inj (h.trans (congrArg (u :: ·) hvs))
      rfl
    rw [List.reverse_cons, List.append_assoc] at ht
    obtain ⟨c', hrun, hc'⟩ := ih ⟨typeDepth scan.depth u, u :: scan.taken⟩ c.next
      (next_eq h hne) (fun _ => hprevious) hus ht
    refine ⟨c', ?_, hc'⟩
    rw [repeatWhile_of_lt hstep (remaining_next_lt h hne), hrun, List.reverse_cons,
      List.append_assoc]
    rfl

/-- **A type is what the scan goes over**, if there is anything. -/
theorem exists_typeUntil_eq (lineBreaksEnd : Bool) (h : c.current :: c.rest = us ++ t :: ts)
    (hus : typeGoes ends lineBreaksEnd none 0 us = true)
    (ht : typeStops ends lineBreaksEnd us.getLast? (us.foldl typeDepth 0) t = true) :
    ∃ c', c'.current :: c'.rest = t :: ts ∧ typeUntil ends lineBreaksEnd c
      = if us.isEmpty then refuse "type" c'
        else node c.current.start (.typeText (spelling us)) c' := by
  have hlast : (us.reverse ++ ([] : List Token)).head? = us.getLast? := by
    rw [List.append_nil, List.head?_reverse]
  obtain ⟨c', hrun, hc'⟩ := exists_typeScan lineBreaksEnd us ⟨0, []⟩ c h
    (fun hne => absurd rfl hne) hus (hlast ▸ ht)
  refine ⟨c', hc', ?_⟩
  unfold typeUntil
  rw [here_bind, bind_of_ok _ hrun, List.append_nil, List.isEmpty_reverse, List.reverse_reverse]
  exact ite_run _ _ _

/-- **Some tokens are the type** in every list with an end token: those up to the first one that
the scan stops in front of. -/
theorem exists_typeSplit (ends : Token → Bool) (lineBreaksEnd : Bool) {vs : List Token}
    (hend : ∃ e ∈ vs, e.isEnd = true) (last : Option Token) (depth : Nat) :
    ∃ us t ts, vs = us ++ t :: ts ∧ typeGoes ends lineBreaksEnd last depth us = true
      ∧ typeStops ends lineBreaksEnd (us.getLast?.or last) (us.foldl typeDepth depth) t = true := by
  induction vs generalizing last depth with
  | nil =>
    obtain ⟨e, he, _⟩ := hend
    exact absurd he List.not_mem_nil
  | cons v vs ih =>
    cases hv : typeStops ends lineBreaksEnd last depth v with
    | true => exact ⟨[], v, vs, rfl, rfl, hv⟩
    | false =>
      have hlater : ∃ e ∈ vs, e.isEnd = true := by
        obtain ⟨e, he, hisEnd⟩ := hend
        rcases List.mem_cons.mp he with rfl | he
        · rw [typeStops, hisEnd, Bool.true_or] at hv
          cases hv
        · exact ⟨e, he, hisEnd⟩
      obtain ⟨us, t, ts, rfl, hus, ht⟩ := ih hlater (some v) (typeDepth depth v)
      have hlast : ((v :: us).getLast?).or last = us.getLast?.or (some v) := by
        rw [List.getLast?_cons]
        cases us.getLast? <;> rfl
      refine ⟨v :: us, t, ts, rfl, ?_, hlast ▸ ht⟩
      rw [typeGoes, hv, hus]
      rfl

/-! ## Tokens that are passed -/

/-- Whether the scan of a type goes over tokens, wherever it comes from: none of them ends the
text, and outside of brackets none of them ends the type, closes a bracket or stands on a new
line. -/
def typePasses (ends : Token → Bool) : Nat → List Token → Bool
  | _, [] => true
  | depth, t :: ts =>
    !t.isEnd && (depth != 0 || !(ends t || t.isPunctOf ('>' :: closers) || t.breaksLine))
      && typePasses ends (typeDepth depth t) ts

theorem typeGoes_of_passes (lineBreaksEnd : Bool) (last : Option Token) (depth : Nat)
    (us : List Token) (h : typePasses ends depth us = true) :
    typeGoes ends lineBreaksEnd last depth us = true := by
  induction us generalizing last depth with
  | nil => rfl
  | cons u us ih =>
    obtain ⟨hu, hus⟩ := Bool.and_eq_true_iff.mp h
    obtain ⟨hend, hdepth⟩ := Bool.and_eq_true_iff.mp hu
    have hgo : typeStops ends lineBreaksEnd last depth u = false := by
      unfold typeStops
      rw [(Bool.not_eq_true' _).mp hend]
      rcases Bool.or_eq_true_iff.mp hdepth with hd | hout
      · rw [beq_false_of_ne (bne_iff_ne.mp hd)]
        rfl
      · simp only [Bool.not_eq_true', Bool.or_eq_false_iff] at hout
        rw [hout.1.1, hout.1.2, hout.2]
        simp
    rw [typeGoes, hgo, ih (some u) _ hus]
    rfl

theorem typePasses_append (depth : Nat) (us vs : List Token) :
    typePasses ends depth (us ++ vs)
      = (typePasses ends depth us && typePasses ends (us.foldl typeDepth depth) vs) := by
  induction us generalizing depth with
  | nil => rfl
  | cons u us ih =>
    rw [List.cons_append, typePasses, typePasses, ih, List.foldl_cons]
    simp only [Bool.and_assoc]

/-- **A type is what is passed**, up to the end of the text or, outside of brackets, to a token
that ends it. -/
theorem exists_typeUntil_of_passes (lineBreaksEnd : Bool)
    (h : c.current :: c.rest = us ++ t :: ts) (hne : us ≠ []) (hus : typePasses ends 0 us = true)
    (ht : t.isEnd = true
      ∨ us.foldl typeDepth 0 = 0 ∧ (ends t || t.isPunctOf ('>' :: closers)) = true) :
    ∃ c', typeUntil ends lineBreaksEnd c = node c.current.start (.typeText (spelling us)) c'
      ∧ c'.current :: c'.rest = t :: ts := by
  have hstop : typeStops ends lineBreaksEnd us.getLast? (us.foldl typeDepth 0) t = true := by
    unfold typeStops
    rcases ht with ht | ⟨hdepth, ht⟩
    · rw [ht, Bool.true_or]
    · rw [hdepth, ht]
      simp
  obtain ⟨c', hc', hrun⟩ := exists_typeUntil_eq lineBreaksEnd h
    (typeGoes_of_passes lineBreaksEnd none 0 us hus) hstop
  rw [List.isEmpty_eq_false_iff.mpr hne, if_neg Bool.false_ne_true] at hrun
  exact ⟨c', hrun, hc'⟩

/-! ## Scans over the same pieces -/

variable {vs : List Token} {u : Token}

theorem typeDepth_eq_of_lexeme (h : t.lexeme = u.lexeme) (depth : Nat) :
    typeDepth depth t = typeDepth depth u := by
  have hkind : t.kind = u.kind := congrArg Lexeme.kind h
  unfold typeDepth Token.isPunctOf
  rw [hkind]

theorem foldl_typeDepth_eq_of_pieces (h : us.map Token.piece = vs.map Token.piece) (depth : Nat) :
    us.foldl typeDepth depth = vs.foldl typeDepth depth := by
  induction us generalizing vs depth with
  | nil => rw [List.map_eq_nil_iff.mp h.symm]
  | cons u us ih =>
    obtain ⟨v, vs, rfl, hv, hvs⟩ := List.map_eq_cons_iff.mp h.symm
    rw [List.foldl_cons, List.foldl_cons, typeDepth_eq_of_lexeme (congrArg Piece.lexeme hv),
      ih hvs.symm]

/-- Where a type ends is a matter of the pieces, not of their places. -/
theorem typeStops_eq_of_pieces (stops : List Char) (lineBreaksEnd : Bool)
    {last last' : Option Token} (hlast : last.map Token.piece = last'.map Token.piece)
    (ht : t.piece = u.piece) (depth : Nat) :
    typeStops (·.isPunctOf stops) lineBreaksEnd last depth t
      = typeStops (·.isPunctOf stops) lineBreaksEnd last' depth u := by
  obtain ⟨kind, trivia, text, start⟩ := t
  obtain ⟨kind', trivia', text', start'⟩ := u
  cases ht
  cases last with
  | none =>
    rw [Option.map_eq_none_iff.mp hlast.symm]
    rfl
  | some l =>
    obtain ⟨l', rfl, hl⟩ := Option.map_eq_some_iff.mp hlast.symm
    obtain ⟨kind, trivia, text, start⟩ := l
    obtain ⟨kind', trivia', text', start'⟩ := l'
    cases hl
    rfl

theorem typeGoes_eq_of_pieces (stops : List Char) (lineBreaksEnd : Bool)
    {last last' : Option Token} (hlast : last.map Token.piece = last'.map Token.piece)
    (h : us.map Token.piece = vs.map Token.piece) (depth : Nat) :
    typeGoes (·.isPunctOf stops) lineBreaksEnd last depth us
      = typeGoes (·.isPunctOf stops) lineBreaksEnd last' depth vs := by
  induction us generalizing vs last last' depth with
  | nil =>
    rw [List.map_eq_nil_iff.mp h.symm]
    rfl
  | cons u us ih =>
    obtain ⟨v, vs, rfl, hv, hvs⟩ := List.map_eq_cons_iff.mp h.symm
    rw [typeGoes, typeGoes, typeStops_eq_of_pieces stops lineBreaksEnd hlast hv.symm,
      typeDepth_eq_of_lexeme (congrArg Piece.lexeme hv.symm),
      @ih vs (some u) (some v) (congrArg some hv.symm) hvs.symm]

/-- The scan of a type does not go over the end of the text. -/
theorem isEnd_of_typeGoes {ends : Token → Bool} {lineBreaksEnd : Bool} {last : Option Token}
    {depth : Nat} (h : typeGoes ends lineBreaksEnd last depth us = true) :
    ∀ u ∈ us, u.isEnd = false := by
  induction us generalizing last depth with
  | nil => exact fun _ hu => absurd hu List.not_mem_nil
  | cons u us ih =>
    obtain ⟨hu, hus⟩ := Bool.and_eq_true_iff.mp h
    refine List.forall_mem_cons.mpr ⟨?_, ih hus⟩
    unfold typeStops at hu
    exact (Bool.or_eq_false_iff.mp ((Bool.not_eq_true' _).mp hu)).1

end Parser

end TypeTest
