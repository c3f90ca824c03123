import TypeTest.Proofs.Operators.Operand
import TypeTest.Proofs.Parsing.FollowingTypes
import TypeTest.Proofs.Parsing.Progress

/-!
# An operand in parentheses where parameters are expected

A parenthesis whose partner stands before a colon is read as the head of an arrow function. With
an operand in it this always fails (`Parser.exists_arrowFunction_error`).

A name and a bracketed literal do pass for a parameter, and then the parenthesis may close.
But every other operand goes on with a point or a bracket, or does not start like a parameter.
Where the parenthesis does close, the colon starts the type of the result. Nothing but an arrow
ends that type outside of brackets, so in front of lexemes without one it runs to the end of the
text; and there the arrow is missing.
-/

namespace TypeTest

open TypeTest.Parser

namespace Parser

variable {levels : Nat} {c c' : Cursor} {l : Lexeme} {ls rest : List Lexeme}

/-! ## Bracketed regions -/

theorem skipBracketed_eq (c : Cursor) :
    skipBracketed c = (bracketToken 0 >>= fun depth =>
      repeatWhile bracketStep depth >>= fun _ => pure ()) c := rfl

theorem bracketToken_run (hc : c.Faces (l :: ls)) (hl : l.kind ≠ .endOfText) (depth : Nat) :
    bracketToken depth c = .ok (bracketDepth depth c.current, c.next) := by
  unfold bracketToken
  rw [current_bind, hc.isEnd_eq, beq_false_of_ne hl, if_neg Bool.false_ne_true, advance_bind]
  rfl

/-- Inside of brackets the loop goes over a lexeme. -/
theorem bracketStep_next {depth : Nat} (hdepth : 0 < depth) (hc : c.Faces (l :: ls))
    (hl : l.kind ≠ .endOfText) :
    repeatWhile bracketStep depth c
      = repeatWhile bracketStep (bracketDepth depth c.current) c.next := by
  refine repeatWhile_of_lt ?_ ?_
  · unfold bracketStep
    rw [beq_false_of_ne (Nat.ne_of_gt hdepth), if_neg Bool.false_ne_true,
      bind_of_ok _ (bracketToken_run hc hl depth)]
    rfl
  · rw [hc.remaining_eq, hc.next.remaining_eq]
    exact Nat.lt_succ_self _

/-- **Well-bracketed lexemes are skipped** inside of brackets. -/
theorem exists_skip_of_bracketed {stops : List Char} (h : Bracketed stops ls) {depth : Nat}
    (hdepth : 0 < depth) (hend : ∀ l ∈ ls, l.kind ≠ .endOfText) (hc : c.Faces (ls ++ rest)) :
    ∃ c', repeatWhile bracketStep depth c = repeatWhile bracketStep depth c' ∧ c'.Faces rest := by
  induction h generalizing depth c rest with
  | nil => exact ⟨c, rfl, hc⟩
  | @plain stops l ls hl _ _ ih =>
    obtain ⟨hkind, hend⟩ := List.forall_mem_cons.mp hend
    have hsame : bracketDepth depth c.current = depth := by
      have hnone : ∀ qs : List Char, (∀ q ∈ qs, q ∈ '<' :: openers ∨ q ∈ '>' :: closers) →
          c.current.isPunctOf qs = false :=
        fun qs hqs => hc.isPunctOf_eq_false fun q hq => Lexeme.kind_ne_of_isBracket hl (hqs q hq)
      unfold bracketDepth
      rw [hnone _ fun q hq => .inl (List.mem_cons_of_mem _ hq),
        hnone _ fun q hq => .inr (List.mem_cons_of_mem _ hq)]
      rfl
    obtain ⟨c', hrun, hc'⟩ := ih hdepth hend hc.next
    exact ⟨c', by rw [bracketStep_next hdepth hc hkind, hsame, hrun], hc'⟩
  | @nested stops o p inner ls hpair _ _ ihinner ih =>
    obtain ⟨_, hend⟩ := List.forall_mem_cons.mp hend
    obtain ⟨hendInner, hend⟩ := List.forall_mem_append.mp hend
    obtain ⟨_, hend⟩ := List.forall_mem_cons.mp hend
    rw [List.cons_append, List.append_assoc, List.cons_append] at hc
    -- angle brackets leave the depth as it is, the others lead one deeper and back
    obtain ⟨inside, hinside, hopen, hclose⟩ : ∃ inside, 0 < inside
        ∧ (∀ t : Token, t.lexeme = .mark o → bracketDepth depth t = inside)
        ∧ ∀ t : Token, t.lexeme = .mark p → bracketDepth inside t = depth := by
      unfold bracketDepth
      rcases contains_or_angle_of_mem_bracketPairs (o, p) hpair with ⟨ho, hp, hp'⟩ | hangles
      · refine ⟨depth + 1, Nat.succ_pos _, fun t ht => ?_, fun t ht => ?_⟩
        · rw [Token.isPunctOf_of_lexeme ht, ho, if_pos rfl]
        · rw [Token.isPunctOf_of_lexeme ht, Token.isPunctOf_of_lexeme ht, hp, hp',
            if_neg Bool.false_ne_true, if_pos rfl]
          rfl
      · obtain ⟨rfl, rfl⟩ := Prod.mk.inj hangles
        refine ⟨depth, hdepth, fun t ht => ?_, fun t ht => ?_⟩ <;>
        · rw [Token.isPunctOf_of_lexeme ht, Token.isPunctOf_of_lexeme ht]
          rfl
    obtain ⟨c₁, hrun₁, hc₁⟩ := ihinner hinside hendInner hc.next
    obtain ⟨c₂, hrun₂, hc₂⟩ := ih hdepth hend hc₁.next
    refine ⟨c₂, ?_, hc₂⟩
    rw [bracketStep_next hdepth hc TokenKind.noConfusion, hopen _ hc.lexeme_current, hrun₁,
      bracketStep_next hinside hc₁ TokenKind.noConfusion, hclose _ hc₁.lexeme_current, hrun₂]

/-- **Balanced lexemes in brackets are skipped** with their brackets. -/
theorem exists_skipBracketed {o p : Char} (ho : openers.contains o = true)
    (hp : openers.contains p = false) (hp' : closers.contains p = true) (h : Balanced ls)
    (hc : c.Faces (inBrackets o p ls ++ rest)) :
    ∃ c', skipBracketed c = .ok ((), c') ∧ c'.Faces rest := by
  rw [inBrackets_append] at hc
  have hopen : bracketDepth 0 c.current = 1 := by
    unfold bracketDepth
    rw [hc.isPunctOf_mark, ho, if_pos rfl]
  obtain ⟨c₁, hrun₁, hc₁⟩ := exists_skip_of_bracketed h.bracketed Nat.one_pos
    (fun l hl => (h.scans l hl).kind_ne) hc.next
  have hclose : bracketDepth 1 c₁.current = 0 := by
    unfold bracketDepth
    rw [hc₁.isPunctOf_mark, hc₁.isPunctOf_mark, hp, hp', if_neg Bool.false_ne_true, if_pos rfl]
  refine ⟨c₁.next, ?_, hc₁.next⟩
  rw [skipBracketed_eq, bind_of_ok _ (bracketToken_run hc TokenKind.noConfusion 0), hopen]
  have hloop : repeatWhile bracketStep 1 c.next = .ok (0, c₁.next) := by
    rw [hrun₁, bracketStep_next Nat.one_pos hc₁ TokenKind.noConfusion, hclose]
    exact repeatWhile_of_none rfl
  rw [bind_of_ok _ hloop]
  rfl

/-! ## An operand as a parameter -/

/-- What starts neither with a name nor with a bracket that may be taken apart is no parameter. -/
theorem exists_parameter_error (hl : l.kind ≠ .ellipsis) (hname : l.kind ≠ .identifier)
    (hbracket : ∀ q ∈ ['\x7b', '['], l.kind ≠ .punct q) (hc : c.Faces (l :: ls)) :
    ∃ fault, parameter (within levels) c = .error fault := by
  have hellipsis : (c.current.kind == .ellipsis) = false := by
    rw [hc.kind]
    exact beq_false_of_ne hl
  have herror : ∃ fault, parameterName c = .error fault := by
    unfold parameterName
    rw [current_bind, hc.isPunctOf_eq_false hbracket, if_neg Bool.false_ne_true, name_run,
      hc.isIdentifier_eq, beq_false_of_ne hname, if_neg Bool.false_ne_true]
    exact Comparison.refuse_eq_error _ c
  obtain ⟨fault, herror⟩ := herror
  unfold parameter
  rw [here_bind, bind_of_ok _ (skipIf_of_false hellipsis), bind_of_error _ herror]
  exact ⟨fault, rfl⟩

/-- The marks that go on with an operand. -/
def extenders : List Char := ['.', '(', '<']

/-- **What comes of lexemes in front of a mark** where a parameter is expected: they are refused,
or taken for one as a whole, or left at a mark with which an operand goes on. -/
def TakenAsParameter (levels : Nat) (c : Cursor) (q : Char) (rest : List Lexeme) : Prop :=
  (∃ fault, parameter (within levels) c = .error fault)
  ∨ ∃ n c' r rest', parameter (within levels) c = .ok (n, c') ∧ c'.Faces (.mark r :: rest')
    ∧ (r ∈ extenders ∨ r = q ∧ rest' = rest)

/-- **A parameter ends with its name** in front of a mark that goes on with an operand, for
neither its type nor its value starts with one. -/
theorem takenAsParameter_of_parameterName {q : Char} {own : String} {c₁ : Cursor}
    (hq : q ∈ ')' :: extenders) (hc : c.Faces (l :: ls)) (hl : l.kind ≠ .ellipsis)
    (hname : parameterName c = .ok (own, c₁)) (hc₁ : c₁.Faces (.mark q :: rest)) :
    TakenAsParameter levels c q rest := by
  have hmark : ∀ r ∈ ['?', ':', '='], (Lexeme.mark q).kind ≠ .punct r := by
    have hdisjoint : ∀ q ∈ ')' :: extenders, q ∉ ['?', ':', '='] := by simp [extenders]
    exact fun r hr => Lexeme.kind_mark_ne fun h => hdisjoint q hq (h ▸ hr)
  have hellipsis : (c.current.kind == .ellipsis) = false := by
    rw [hc.kind]
    exact beq_false_of_ne hl
  have hinitial : initialValue (within levels) c₁ = .ok (none, c₁) := by
    unfold initialValue
    rw [bind_of_ok _ (accept_of_ne hc₁ (hmark '=' (by decide)))]
    rfl
  have hparameter : ∃ n c', parameter (within levels) c = .ok (n, c')
      ∧ c'.Faces (.mark q :: rest) := by
    unfold parameter
    rw [here_bind, bind_of_ok _ (skipIf_of_false hellipsis), bind_of_ok _ hname,
      bind_of_ok _ (accept_of_ne hc₁ (hmark '?' (by decide))),
      bind_of_ok _ (typeAfterColon_of_ne hc₁ (hmark ':' (by decide)) false), bind_of_ok _ hinitial]
    exact ⟨_, _, rfl, hc₁.store⟩
  obtain ⟨n, c', hrun, hc'⟩ := hparameter
  exact .inr ⟨n, c', q, rest, hrun, hc', .inr ⟨rfl, rfl⟩⟩

/-- What is left of a part of an operand is left of the whole. -/
theorem TakenAsParameter.extend {m q : Char} {ms : List Lexeme} (hm : m ∈ extenders)
    (h : TakenAsParameter levels c m ms) : TakenAsParameter levels c q rest := by
  rcases h with herror | ⟨n, c', r, rest', hrun, hc', hr⟩
  · exact .inl herror
  · refine .inr ⟨n, c', r, rest', hrun, hc', .inl ?_⟩
    rcases hr with hr | ⟨rfl, _⟩
    · exact hr
    · exact hm

/-- **A bracketed literal is taken for a parameter.** -/
theorem takenAsParameter_of_brackets {o b q : Char}
    (hpair : (o, b) ∈ [('[', ']'), ('\x7b', '\x7d')]) (h : Balanced ls)
    (hq : q ∈ ')' :: extenders) (hc : c.Faces (inBrackets o b ls ++ .mark q :: rest)) :
    TakenAsParameter levels c q rest := by
  have hpairs : ∀ pair ∈ [('[', ']'), ('\x7b', '\x7d')],
      ['\x7b', '['].contains pair.1 = true ∧ openers.contains pair.1 = true
        ∧ openers.contains pair.2 = false ∧ closers.contains pair.2 = true := by decide
  obtain ⟨hapart, ho, hb, hb'⟩ := hpairs _ hpair
  obtain ⟨c₁, hrun, hc₁⟩ := exists_skipBracketed ho hb hb' h hc
  rw [inBrackets_append] at hc
  have hname : parameterName c = .ok ("", c₁) := by
    unfold parameterName
    rw [current_bind, hc.isPunctOf_mark, hapart, if_pos rfl, bind_of_ok _ hrun]
    rfl
  exact takenAsParameter_of_parameterName hq hc TokenKind.noConfusion hname hc₁

/-- **A name is taken for a parameter.** -/
theorem takenAsParameter_of_name {own : Name} {q : Char} (hq : q ∈ ')' :: extenders)
    (hc : c.Faces (own.lexeme :: .mark q :: rest)) : TakenAsParameter levels c q rest := by
  have hname : parameterName c = .ok (own.text, c.next) := by
    have hplain : c.current.isPunctOf ['\x7b', '['] = false :=
      hc.isPunctOf_eq_false fun _ _ => TokenKind.noConfusion
    unfold parameterName
    rw [current_bind, hplain, if_neg Bool.false_ne_true]
    exact name_word hc _
  exact takenAsParameter_of_parameterName hq hc TokenKind.noConfusion hname hc.next

/-- **An operand where a parameter is expected** is no parameter unless it is a name or a
bracketed literal. -/
theorem takenAsParameter_of_operand {p : Phrase} (h : p.IsOperand) :
    ∀ (q : Char) (rest : List Lexeme) (c : Cursor), q ∈ ')' :: extenders →
      c.Faces (p.lexemes ++ .mark q :: rest) → TakenAsParameter levels c q rest := by
  induction h with
  | name own => exact fun q rest c hq hc => takenAsParameter_of_name hq hc
  | @literal l form _ hform =>
    intro q rest c _ hc
    left
    unfold Lexeme.literal? at hform
    refine exists_parameter_error (l := l) ?_ ?_ ?_ hc <;>
    · split at hform <;> rename_i hk <;> first | (simp [hk]; done) | cases hform
  | parenthesized _ _ =>
    intro q rest c _ hc
    rw [Phrase.parenthesized, inBrackets_append] at hc
    exact .inl (exists_parameter_error TokenKind.noConfusion TokenKind.noConfusion
      (fun q hq => Lexeme.kind_mark_ne fun h => by subst h; revert hq; decide) hc)
  | array helements _ =>
    intro q rest c hq hc
    exact takenAsParameter_of_brackets (by decide)
      (.commas (List.forall_mem_map.mpr fun e he => (helements e he).balanced)) hq hc
  | object hvalues _ =>
    intro q rest c hq hc
    exact takenAsParameter_of_brackets (by decide) (.commas (List.forall_mem_map.mpr fun e he =>
      e.balanced fun key value hvalue => (hvalues key value (hvalue ▸ he)).balanced)) hq hc
  | member own _ ih =>
    intro q rest c hq hc
    rw [Phrase.member, List.append_assoc] at hc
    exact (ih '.' _ c (by decide) hc).extend (by decide)
  | @call callee types arguments _ _ ih _ =>
    intro q rest c hq hc
    obtain ⟨m, ms, hm, hms⟩ := @exists_arguments_eq (.mark q :: rest) types
      (commas (arguments.map Phrase.lexemes))
    have hm : m ∈ extenders := by rcases hm with rfl | rfl <;> decide
    rw [Phrase.call, List.append_assoc, List.append_assoc, hms] at hc
    exact (ih m ms c (List.mem_cons_of_mem _ hm) hc).extend hm

/-! ## The head of a function -/

/-- A repetition ends after a step from which no further one leads on. -/
theorem repeatWhile_of_last {σ : Type} {step : σ → Parser (Option σ)} {s s' : σ}
    (h : step s c = .ok (some s', c')) (hlast : step s' c' = .ok (none, c')) :
    repeatWhile step s c = .ok (s', c') := by
  rw [repeatWhile, h]
  dsimp only
  split
  · exact repeatWhile_of_none hlast
  · rfl

/-- **An operand in parentheses where parameters are expected** is refused or taken for one
parameter. -/
theorem parameters_of_operand {p : Phrase} (h : p.IsOperand)
    (hc : c.Faces (inBrackets '(' ')' p.lexemes ++ rest)) :
    (∃ fault, parameters (within levels) c = .error fault)
    ∨ ∃ ns c', parameters (within levels) c = .ok (ns, c') ∧ c'.Faces rest := by
  obtain ⟨l, ms, hms, hl⟩ := h.opens
  rw [inBrackets_append] at hc
  unfold parameters
  rw [bind_of_ok _ (expect_mark hc _)]
  have hclosed : c.next.current.isPunct ')' = false := by
    have hfirst := hc.next
    rw [hms] at hfirst
    exact hfirst.isPunct_eq_false (hl.kind_ne_punct (by decide))
  have hstep : commaStep ')' (parameter (within levels)) ⟨[], true⟩ c.next
      = (parameter (within levels) >>= fun x => accept ',' >>= fun more =>
          pure (some ⟨[x], more⟩)) c.next := by
    unfold commaStep
    rw [atPunct_bind, hclosed]
    rfl
  rcases takenAsParameter_of_operand h ')' rest c.next List.mem_cons_self hc.next with
    ⟨fault, herror⟩ | ⟨n, c₁, r, rest', hrun, hc₁, hr⟩
  · left
    rw [bind_of_error _ herror] at hstep
    refine ⟨fault, ?_⟩
    have hlist : commaList ')' (parameter (within levels)) c.next = .error fault := by
      unfold commaList
      rw [bind_of_error _ (repeatWhile_of_error hstep)]
    rw [bind_of_error _ hlist]
  · have hcomma : r ≠ ',' := by
      rcases hr with hr | ⟨rfl, _⟩
      · rintro rfl
        revert hr
        decide
      · decide
    rw [bind_of_ok _ hrun, bind_of_ok _ (accept_of_ne hc₁ (Lexeme.kind_mark_ne hcomma))] at hstep
    have hlist : commaList ')' (parameter (within levels)) c.next = .ok ([n], c₁) := by
      unfold commaList
      rw [bind_of_ok _ (repeatWhile_of_last hstep rfl)]
      rfl
    rw [bind_of_ok _ hlist]
    rcases hr with hr | ⟨rfl, rfl⟩
    · -- the parenthesis does not close here
      have hne : (r == ')') = false := by
        refine beq_false_of_ne ?_
        rintro rfl
        revert hr
        decide
      obtain ⟨fault, herror⟩ := Comparison.refuse_eq_error (α := Token) "')'" c₁
      refine .inl ⟨fault, ?_⟩
      rw [bind_of_error _ ((expect_run _ _ _).trans (by
        rw [hc₁.isPunct_mark, hne, if_neg Bool.false_ne_true]
        exact herror))]
    · refine .inr ⟨[n], c₁.next, ?_, hc₁.next⟩
      rw [bind_of_ok _ (expect_mark hc₁ _)]
      rfl

/-- **The type of a result runs to the end of the text** if no arrow stands outside of brackets. -/
theorem exists_returnType_to_end (hls : Level (fun l => l.kind ≠ .arrow) ls)
    (hend : ∀ l ∈ ls, l.kind ≠ .endOfText) (hne : ls ≠ []) (hc : c.Faces (.mark ':' :: ls)) :
    ∃ n c', typeAfterColon (·.kind == .arrow) false c = .ok (some n, c')
      ∧ c'.current.lexeme = .ending := by
  obtain ⟨us, e, htokens, hus, he⟩ : ∃ us e, c.next.current :: c.next.rest = us ++ [e]
      ∧ us.map Token.lexeme = ls ∧ e.lexeme = .ending := by
    obtain ⟨us, vs, htokens, hus, hvs⟩ := List.map_eq_append_iff.mp hc.next.lexemes
    obtain ⟨e, _, rfl, he, hnil⟩ := List.map_eq_cons_iff.mp hvs
    obtain rfl := List.map_eq_nil_iff.mp hnil
    exact ⟨us, e, htokens, hus, he⟩
  obtain ⟨hpasses, _⟩ := typePasses_of_level (·.kind == .arrow) hls
    (fun t pair _ ht => beq_false_of_ne
      ((congrArg Lexeme.kind ht).trans_ne TokenKind.noConfusion)) 0 us
    (fun _ t ht => beq_false_of_ne ht) hend
    (fun u hu => hc.next.breaksLine_of_mem (htokens ▸ List.mem_append_left _ hu)) hus
  have hnonempty : us ≠ [] := by
    rintro rfl
    exact hne hus.symm
  obtain ⟨c', htype, hc'⟩ := exists_typeUntil_of_passes false htokens hnonempty hpasses
    (.inl (beq_of_eq (congrArg Lexeme.kind he)))
  unfold typeAfterColon
  rw [bind_of_ok _ (accept_mark hc), if_pos rfl, bind_of_ok _ htype]
  exact ⟨_, _, rfl, (congrArg Token.lexeme (current_eq hc')).trans he⟩

/-- **An operand in parentheses is no head of an arrow function** in front of a colon, if no arrow
stands outside of brackets in what comes after it. -/
theorem exists_arrowFunction_error {p : Phrase} (h : p.IsOperand)
    (hls : Level (fun l => l.kind ≠ .arrow) ls) (hend : ∀ l ∈ ls, l.kind ≠ .endOfText)
    (hne : ls ≠ []) (hc : c.Faces (inBrackets '(' ')' p.lexemes ++ .mark ':' :: ls)) :
    ∃ fault, arrowFunction (within levels) c = .error fault := by
  have hparameters : arrowParameters (within levels) c = parameters (within levels) c := by
    rw [inBrackets_append] at hc
    unfold arrowParameters
    rw [current_bind, hc.isIdentifier_eq]
    rfl
  unfold arrowFunction
  rw [here_bind]
  rcases parameters_of_operand h hc with ⟨fault, herror⟩ | ⟨ns, c₁, hrun, hc₁⟩
  · rw [← hparameters] at herror
    exact ⟨fault, by rw [bind_of_error _ herror]⟩
  · rw [← hparameters] at hrun
    rw [bind_of_ok _ hrun]
    obtain ⟨n, c₂, hreturned, hlast⟩ := exists_returnType_to_end hls hend hne hc₁
    have hkind : (c₂.current.kind == .arrow) = false :=
      beq_false_of_ne ((congrArg Lexeme.kind hlast).trans_ne TokenKind.noConfusion)
    rw [bind_of_ok _ hreturned, current_bind]
    show ∃ fault, (if c₂.current.kind == .arrow then _ else _ : Parser Node) _ = _
    rw [hkind, if_neg Bool.false_ne_true]
    exact Comparison.refuse_eq_error _ _

end Parser

end TypeTest
