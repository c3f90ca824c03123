import TypeTest.Proofs.Parsing.FollowingTypes

/-!
# Two runs over expressions and statements

Every parser of the grammar gives alike nodes on two texts side by side. There is one lemma
for each, in the order of the grammar, and each is the composition of those of its parts. What
may start a statement is followed from a `fresh` place, where nothing is known of what stands
before: before it looks back, every parser has taken a token.

A statement takes the semicolon after it, so where the second text goes on, its run has passed
that semicolon when the first run stands at the end. In a block this makes no difference,
since the first text ends before its block does.
-/

namespace TypeTest

open TypeTest.Parser

namespace Comparison

/-- **The parsers for what is nested follow each other**, and no block stands at the end of a
text. -/
structure FollowsInside (K : Comparison) (inner : Inner) : Prop where
  expression : ∀ {fresh : Bool} {c c' : Cursor}, K.Beside fresh c c' →
    K.Agree .refusing K.Like (inner.expression c) (inner.expression c')
  block : ∀ {fresh : Bool} {c c' : Cursor}, K.Beside fresh c c' →
    K.Agree .refusing K.Like (inner.block c) (inner.block c')
  block_atEnd : ∀ {c : Cursor}, c.AtEnd → ∃ fault, inner.block c = .error fault

variable {K : Comparison} {s : Slack} {fresh : Bool} {c c' : Cursor} {inner : Inner}
  {start start' : Nat} {e e' : Node} {types types' : List Node}

theorem kind_beq_isEnd {t : Token} {k : TokenKind} (hk : k ≠ .endOfText)
    (h : (t.kind == k) = true) : t.isEnd = false := by
  unfold Token.isEnd
  rw [eq_of_beq h]
  exact beq_false_of_ne hk

/-! ## Functions -/

theorem follows_element (hi : K.FollowsInside inner) (h : K.Beside false c c') :
    K.Agree .refusing K.Like (element inner c) (element inner c') := by
  unfold element
  rw [current_bind, current_bind,
    ← h.similar.beq_kind TokenKind.noConfusion TokenKind.noConfusion, ite_run, ite_run]
  split
  · rename_i hk
    rw [advance_bind, advance_bind]
    refine (hi.expression (h.next (kind_beq_isEnd TokenKind.noConfusion hk))).andThen ?_
    exact fun e e' c₁ c₁' h₁ => follows_node h.start (.spread h₁.1) h₁.2
  · exact hi.expression h

theorem follows_parameterName (h : K.Beside false c c') :
    K.Agree .refusing Eq (parameterName c) (parameterName c') := by
  unfold parameterName
  rw [current_bind, current_bind, ← h.similar.isPunctOf (by decide), ite_run, ite_run]
  split
  · exact (follows_skipBracketed h).andThen fun _ _ _ _ h₁ => .ok ⟨rfl, h₁⟩
  · exact follows_name h _

theorem follows_initialValue (hi : K.FollowsInside inner) (h : K.Beside false c c') :
    K.Agree .refusing (Option.Rel K.Like) (initialValue inner c) (initialValue inner c') := by
  unfold initialValue
  refine (follows_accept h (by decide)).andThen ?_
  rintro equals _ c₁ c₁' ⟨rfl, h₁⟩
  rw [ite_run, ite_run]
  split
  · exact (hi.expression h₁).andThen fun e e' c₂ c₂' h₂ => .ok ⟨.some h₂.1, h₂.2⟩
  · exact .ok ⟨.none, h₁⟩

/-- The type of a parameter may go over the end of the first text. -/
theorem follows_parameter (hi : K.FollowsInside inner) (h : K.Beside false c c') :
    K.Agree .spending K.Like (parameter inner c) (parameter inner c') := by
  unfold parameter
  rw [here_bind, here_bind]
  refine (follows_skipIf h (h.similar.beq_kind TokenKind.noConfusion TokenKind.noConfusion)
    (kind_beq_isEnd TokenKind.noConfusion)).andThen_spending fun _ _ c₁ c₁' h₁ => ?_
  refine (follows_parameterName h₁).andThen_spending ?_
  rintro own _ c₂ c₂' ⟨rfl, h₂⟩
  refine (follows_accept h₂ (by decide)).andThen_spending ?_
  rintro _ _ c₃ c₃' ⟨_, h₃⟩
  refine (follows_typeAfterColon (ending_spending fun hs => hs.isPunctOf _) false h₃).bind
    (fun annotated _ c₄ h₄ => ?_) ?_
  · -- no value stands at the end
    intro n c₅ hr
    unfold initialValue at hr
    rw [bind_of_ok _ ((bind_of_ok _ (accept_of_atEnd h₄)).trans rfl)] at hr
    cases hr
    exact ⟨h₄.rest, h₄.isEnd⟩
  · rintro annotated annotated' c₄ c₄' ⟨ha, h₄⟩
    refine (follows_initialValue hi h₄).andThen_spending ?_
    exact fun _ _ c₅ c₅' h₅ => follows_node h.start (.parameter ha h₅.1) h₅.2

theorem parameter_of_atEnd (inner : Inner) (h : c.AtEnd) :
    ∃ fault, parameter inner c = .error fault := by
  have hellipsis : (c.current.kind == .ellipsis) = false := by
    rw [eq_of_beq h.isEnd]
    rfl
  have hname : ∃ fault, parameterName c = .error fault := by
    unfold parameterName
    rw [current_bind, isPunctOf_of_isEnd h.isEnd, if_neg Bool.false_ne_true]
    exact name_of_atEnd h _
  obtain ⟨fault, hname⟩ := hname
  have hskip : skipIf (·.kind == .ellipsis) c = .ok ((), c) := by
    rw [skipIf_run, hellipsis, if_neg Bool.false_ne_true]
  unfold parameter
  rw [here_bind, bind_of_ok _ hskip, bind_of_error _ hname]
  exact ⟨fault, rfl⟩

/-- **Parameters** are read side by side: their closing parenthesis stands in the first text. -/
theorem follows_parameters (hi : K.FollowsInside inner) (h : K.Beside fresh c c') :
    K.Agree .refusing (List.Forall₂ K.Like) (parameters inner c) (parameters inner c') := by
  unfold parameters
  refine (follows_expect h (by decide) _).andThen fun _ _ c₁ c₁' h₁ => ?_
  have hend : Slack.spending.Ends (parameter inner) := fun _ c hc =>
    spending_of_error (parameter_of_atEnd inner hc).choose_spec
  refine Follows.bind_closed (s := .spending) (follows_commaList (by decide) hend
    (fun c c' h => follows_parameter hi h) h₁.2) (fun found c₂ h₂ => ?_) ?_
  · obtain ⟨fault, hf⟩ := expect_of_atEnd h₂ "')'"
    exact ⟨fault, bind_of_error _ hf⟩
  · intro found found' c₂ c₂' h₂
    exact (follows_expect h₂.2 (by decide) _).andThen fun _ _ c₃ c₃' h₃ => .ok ⟨h₂.1, h₃.2⟩

theorem follows_functionRest (hi : K.FollowsInside inner) (hs : K.Offsets start start')
    (h : K.Beside fresh c c') :
    K.Agree .refusing K.Like (functionRest inner start c) (functionRest inner start' c') := by
  unfold functionRest
  refine (follows_parameters hi h).andThen fun found found' c₁ c₁' h₁ => ?_
  refine Follows.bind_closed (s := .spending) (follows_typeAfterColon
    (ending_spending fun hs => hs.similar.isPunct (by decide)) false h₁.2)
    (fun returned c₂ h₂ => ?_) ?_
  · obtain ⟨fault, hf⟩ := hi.block_atEnd h₂
    exact ⟨fault, bind_of_error _ hf⟩
  · intro returned returned' c₂ c₂' h₂
    refine (hi.block h₂.2).andThen fun body body' c₃ c₃' h₃ => ?_
    exact follows_node hs (.function h₁.1 h₂.1 h₃.1) h₃.2

theorem follows_functionExpression (hi : K.FollowsInside inner) (h : K.Beside fresh c c')
    (he : c.current.isEnd = false) :
    K.Agree .refusing K.Like (functionExpression inner c) (functionExpression inner c') := by
  unfold functionExpression
  rw [here_bind, here_bind, advance_bind, advance_bind]
  refine (follows_skipIf (h.next he) (h.next he).similar.isIdentifier
    isEnd_of_isIdentifier).andThen fun _ _ c₁ c₁' h₁ => ?_
  exact follows_functionRest hi h.start h₁

/-- A leaf over corresponding tokens. -/
theorem follows_store {form form' : Form Node} (hf : Form.Like K.Like K.Texts form form')
    (h : K.Beside fresh c c') (he : c.current.isEnd = false) :
    K.Agree s K.Like (store form c.current.range c.next)
      (store form' c'.current.range c'.next) := by
  have hs := h.same he
  have hrange : ∀ t : Token, t.range = ⟨t.start, t.stop - t.start⟩ := by
    intro t
    unfold Token.range Token.stop
    rw [Nat.add_sub_cancel_left]
  refine .ok ⟨K.like hf ?_ (h.next he).indices, (h.next he).store⟩
  rw [hrange, hrange]
  exact K.ranges hs.start hs.stop

theorem follows_arrowParameters (hi : K.FollowsInside inner) (h : K.Beside fresh c c') :
    K.Agree .refusing (List.Forall₂ K.Like) (arrowParameters inner c)
      (arrowParameters inner c') := by
  unfold arrowParameters
  rw [current_bind, current_bind, ← h.similar.isIdentifier, ite_run, ite_run]
  split
  · rename_i hid
    rw [advance_bind, advance_bind, ← h.similar.text (eq_of_beq hid)]
    refine (follows_store (.parameter .none .none) h (isEnd_of_isIdentifier hid)).andThen ?_
    exact fun n n' c₁ c₁' h₁ => .ok ⟨.cons h₁.1 .nil, h₁.2⟩
  · exact follows_parameters hi h

theorem follows_arrowBody (hi : K.FollowsInside inner) (h : K.Beside fresh c c') :
    K.Agree .refusing K.Like (arrowBody inner c) (arrowBody inner c') := by
  unfold arrowBody
  rw [atPunct_bind, atPunct_bind, ← h.similar.isPunct (by decide), ite_run, ite_run]
  split
  · exact hi.block h
  · exact hi.expression h

theorem follows_arrowFunction (hi : K.FollowsInside inner) (h : K.Beside fresh c c') :
    K.Agree .refusing K.Like (arrowFunction inner c) (arrowFunction inner c') := by
  unfold arrowFunction
  rw [here_bind, here_bind]
  refine (follows_arrowParameters hi h).andThen fun found found' c₁ c₁' h₁ => ?_
  refine Follows.bind_closed (s := .spending) (follows_typeAfterColon
    (ending_spending fun hs => hs.similar.beq_kind TokenKind.noConfusion TokenKind.noConfusion)
    false h₁.2) (fun returned c₂ h₂ => ?_) ?_
  · have hk : (c₂.current.kind == .arrow) = false := by
      rw [eq_of_beq h₂.isEnd]
      rfl
    rw [current_bind, hk, if_neg Bool.false_ne_true]
    exact refuse_eq_error _ c₂
  · intro returned returned' c₂ c₂' h₂
    rw [current_bind, current_bind,
      ← h₂.2.similar.beq_kind TokenKind.noConfusion TokenKind.noConfusion, ite_run, ite_run]
    split
    · rename_i hk
      rw [advance_bind, advance_bind]
      have hbody := h₂.2.next (kind_beq_isEnd TokenKind.noConfusion hk)
      refine (follows_arrowBody hi hbody).andThen fun body body' c₃ c₃' h₃ => ?_
      exact follows_node h.start (.function h₁.1 h₂.1 h₃.1) h₃.2
    · exact follows_refuse h₂.2 _

/-! ## Literals -/

theorem follows_property (hi : K.FollowsInside inner) (h : K.Beside false c c') :
    K.Agree .refusing K.Like (property inner c) (property inner c') := by
  unfold property
  rw [here_bind, here_bind, current_bind, current_bind,
    ← h.similar.beq_kind TokenKind.noConfusion TokenKind.noConfusion, ite_run, ite_run]
  split
  · exact follows_element hi h
  · cases he : c.current.isEnd with
    | true =>
      -- neither the end nor a semicolon names a property
      have hnone : propertyName c.current = none ∧ propertyName c'.current = none := by
        unfold propertyName
        rcases h.of_isEnd he with ⟨_, ⟨_, he'⟩ | ⟨_, hs⟩⟩
        · rw [eq_of_beq he, eq_of_beq he']
          exact ⟨rfl, rfl⟩
        · rw [eq_of_beq he, eq_of_beq hs]
          exact ⟨rfl, rfl⟩
      rw [hnone.1, hnone.2]
      exact follows_refuse h _
    | false =>
      have hsame := h.same he
      have hkey : propertyName c'.current = propertyName c.current := by
        unfold propertyName
        rw [hsame.kind, hsame.text]
      rw [hkey]
      cases propertyName c.current with
      | none => exact follows_refuse h _
      | some key =>
        dsimp only
        rw [advance_bind, advance_bind]
        refine (follows_accept (h.next he) (by decide)).andThen ?_
        rintro colon _ c₁ c₁' ⟨rfl, h₁⟩
        rw [ite_run, ite_run]
        split
        · refine (hi.expression h₁).andThen fun n n' c₂ c₂' h₂ => ?_
          exact follows_node h.start (.propertyAssignment h₂.1) h₂.2
        · rw [atPunct_bind, atPunct_bind, ← h₁.similar.isPunct (by decide), ite_run, ite_run]
          split
          · rw [here_bind, here_bind]
            refine (follows_functionRest hi h₁.start h₁).andThen fun n n' c₂ c₂' h₂ => ?_
            exact follows_node h.start (.method h₂.1) h₂.2
          · exact follows_node h.start .shorthandProperty h₁

theorem follows_objectLiteral (hi : K.FollowsInside inner) (h : K.Beside fresh c c') :
    K.Agree .refusing K.Like (objectLiteral inner c) (objectLiteral inner c') := by
  unfold objectLiteral
  refine (follows_expect h (by decide) _).andThen fun opening opening' c₁ c₁' h₁ => ?_
  refine (follows_commaList (by decide) (Slack.ends_refusing _)
    (fun c c' h => follows_property hi h) h₁.2).andThen fun found found' c₂ c₂' h₂ => ?_
  refine (follows_expect h₂.2 (by decide) _).andThen fun _ _ c₃ c₃' h₃ => ?_
  exact follows_node h₁.1 (.objectLiteral h₂.1) h₃.2

theorem follows_arrayLiteral (hi : K.FollowsInside inner) (h : K.Beside fresh c c')
    (he : c.current.isEnd = false) :
    K.Agree .refusing K.Like (arrayLiteral inner c) (arrayLiteral inner c') := by
  unfold arrayLiteral
  rw [here_bind, here_bind, advance_bind, advance_bind]
  refine (follows_commaList (by decide) (Slack.ends_refusing _)
    (fun c c' h => follows_element hi h) (h.next he)).andThen fun found found' c₁ c₁' h₁ => ?_
  refine (follows_expect h₁.2 (by decide) _).andThen fun _ _ c₂ c₂' h₂ => ?_
  exact follows_node h.start (.arrayLiteral h₁.1) h₂.2

theorem follows_parenthesized (hi : K.FollowsInside inner) (h : K.Beside fresh c c')
    (he : c.current.isEnd = false) :
    K.Agree .refusing K.Like (parenthesized inner c) (parenthesized inner c') := by
  unfold parenthesized
  rw [here_bind, here_bind, advance_bind, advance_bind]
  refine (hi.expression (h.next he)).andThen fun n n' c₁ c₁' h₁ => ?_
  refine (follows_expect h₁.2 (by decide) _).andThen fun _ _ c₂ c₂' h₂ => ?_
  exact follows_node h.start (.parenthesized h₁.1) h₂.2

/-! ## Primary expressions and what follows them -/

theorem follows_leaf {form : Form Node} (hf : Form.Like K.Like K.Texts form form)
    (h : K.Beside fresh c c') (he : c.current.isEnd = false) :
    K.Agree s K.Like (leaf form c) (leaf form c') := by
  unfold leaf
  rw [advance_bind, advance_bind]
  exact follows_store hf h he

/-- No expression starts with a character of punctuation but an opening bracket. -/
theorem plainPrimary_of_punct {p : Char} (hk : c.current.kind = .punct p) (hp : p ∉ openers) :
    plainPrimary inner c = refuse "expression" c := by
  simp only [openers, List.mem_cons, List.not_mem_nil, or_false, not_or] at hp
  unfold plainPrimary
  rw [current_bind]
  simp [hk, hp]

theorem follows_plainPrimary (hi : K.FollowsInside inner) (h : K.Beside fresh c c') :
    K.Agree .refusing K.Like (plainPrimary inner c) (plainPrimary inner c') := by
  cases he : c.current.isEnd with
  | true =>
    have hend : ∀ c : Cursor, c.current.kind = .endOfText →
        plainPrimary inner c = refuse "expression" c := by
      intro c hk
      unfold plainPrimary
      rw [current_bind, hk]
    rw [hend c (eq_of_beq he)]
    rcases h.of_isEnd he with ⟨_, ⟨_, he'⟩ | ⟨_, hs⟩⟩
    · rw [hend c' (eq_of_beq he')]
      exact follows_refuse h _
    · rw [plainPrimary_of_punct (eq_of_beq hs) (by decide)]
      exact follows_refuse h _
  | false =>
    have hs := h.same he
    by_cases hother : ∃ p ∉ openers, c.current.kind = .punct p
    · obtain ⟨p, hp, hk⟩ := hother
      rw [plainPrimary_of_punct hk hp, plainPrimary_of_punct (hs.kind ▸ hk) hp]
      exact follows_refuse h _
    unfold plainPrimary
    rw [current_bind, current_bind, ← hs.kind, ← hs.text]
    cases hk : c.current.kind with
    | identifier =>
      dsimp only
      rw [ite_run, ite_run]
      split
      · exact follows_functionExpression hi h he
      · rw [kindAhead_bind, kindAhead_bind,
          ← h.kindAhead_one he TokenKind.noConfusion TokenKind.noConfusion, ite_run, ite_run]
        split
        · exact follows_arrowFunction hi h
        · exact follows_leaf .identifier h he
    | string value => exact follows_leaf .stringLiteral h he
    | template value substitutions =>
      dsimp only
      split
      · exact follows_leaf .templateLiteral h he
      · exact follows_leaf .stringLiteral h he
    | number => exact follows_leaf .numericLiteral h he
    | punct p =>
      have hp : p ∈ openers := by
        by_contra hp
        exact hother ⟨p, hp, hk⟩
      have hcases : p = '(' ∨ p = '[' ∨ p = '\x7b' := by
        simpa [openers] using hp
      rcases hcases with rfl | rfl | rfl
      · have hparen : c.current.isPunct '(' = true := by
          unfold Token.isPunct
          rw [hk]
          rfl
        show K.Agree .refusing K.Like
          ((if arrowAhead 0 (c.current :: c.rest) then arrowFunction inner
            else parenthesized inner : Parser Node) c)
          ((if arrowAhead 0 (c'.current :: c'.rest) then arrowFunction inner
            else parenthesized inner : Parser Node) c')
        rw [← arrowAhead_current_eq h hparen, ite_run, ite_run]
        split
        · exact follows_arrowFunction hi h
        · exact follows_parenthesized hi h he
      · exact follows_arrayLiteral hi h he
      · exact follows_objectLiteral hi h
    | arrow | ellipsis | endOfText => exact follows_refuse h _

theorem follows_primary (hi : K.FollowsInside inner) (h : K.Beside fresh c c') :
    K.Agree .refusing K.Like (primary inner c) (primary inner c') := by
  have hasync : atAsync c = atAsync c' := by
    unfold atAsync
    rw [← h.similar.isWord]
    cases hw : c.current.isWord "async" with
    | false => rfl
    | true =>
      have he := isEnd_of_isWord hw
      rw [h.kindAhead_one he TokenKind.noConfusion (fun hf => absurd hf (by decide)),
        ← h.kindAhead_one (k := .identifier) he TokenKind.noConfusion TokenKind.noConfusion]
      cases hk : (c.kindAhead 1 == .identifier) with
      | false => rfl
      | true => rw [h.kindAhead_two he (eq_of_beq hk) TokenKind.noConfusion TokenKind.noConfusion]
  unfold primary
  rw [get_bind, get_bind, ← hasync, ite_run, ite_run]
  split
  · rename_i hw
    rw [advance_bind, advance_bind]
    exact follows_plainPrimary hi (h.next (isEnd_of_isWord (Bool.and_eq_true_iff.mp hw).1))
  · exact follows_plainPrimary hi h

theorem follows_arguments (hi : K.FollowsInside inner) (h : K.Beside false c c') :
    K.Agree .refusing (List.Forall₂ K.Like) (arguments inner c) (arguments inner c') := by
  unfold arguments
  refine (follows_expect h (by decide) _).andThen fun _ _ c₁ c₁' h₁ => ?_
  refine (follows_commaList (by decide) (Slack.ends_refusing _)
    (fun c c' h => follows_element hi h) h₁.2).andThen fun found found' c₂ c₂' h₂ => ?_
  exact (follows_expect h₂.2 (by decide) _).andThen fun _ _ c₃ c₃' h₃ => .ok ⟨h₂.1, h₃.2⟩

theorem follows_memberAccess (hs : K.Offsets start start') (hn : K.Like e e')
    (h : K.Beside false c c') (he : c.current.isEnd = false)
    (hq : c.current.isPunct '?' = true → c.next.current.isEnd = false) :
    K.Agree .refusing K.Like (memberAccess start e c) (memberAccess start' e' c') := by
  have hmember : ∀ c c', K.Beside false c c' → c.current.isEnd = false →
      K.Agree .refusing K.Like
        ((advance >>= fun _ => name "property name" >>= fun own =>
          node start (.propertyAccess e own)) c)
        ((advance >>= fun _ => name "property name" >>= fun own =>
          node start' (.propertyAccess e' own)) c') := by
    intro c c' h he
    rw [advance_bind, advance_bind]
    refine (follows_name (h.next he) _).andThen ?_
    rintro own _ c₁ c₁' ⟨rfl, h₁⟩
    exact follows_node hs (.propertyAccess hn) h₁
  unfold memberAccess
  cases hp : c.current.isPunct '?' with
  | false =>
    have hp' := (h.similar.isPunct (by decide)).symm.trans hp
    rw [bind_of_ok _ ((skipIf_run _ c).trans (if_neg (Bool.eq_false_iff.mp hp))),
      bind_of_ok _ ((skipIf_run _ c').trans (if_neg (Bool.eq_false_iff.mp hp')))]
    exact hmember c c' h he
  | true =>
    have hp' := (h.similar.isPunct (by decide)).symm.trans hp
    rw [bind_of_ok _ ((skipIf_run _ c).trans (if_pos hp)),
      bind_of_ok _ ((skipIf_run _ c').trans (if_pos hp'))]
    exact hmember c.next c'.next (h.next he) (hq hp)

theorem follows_indexed (hi : K.FollowsInside inner) (hs : K.Offsets start start')
    (hn : K.Like e e') (h : K.Beside false c c') (he : c.current.isEnd = false) :
    K.Agree .refusing K.Like (indexed inner start e c) (indexed inner start' e' c') := by
  unfold indexed
  rw [advance_bind, advance_bind]
  refine (hi.expression (h.next he)).andThen fun n n' c₁ c₁' h₁ => ?_
  refine (follows_expect h₁.2 (by decide) _).andThen fun _ _ c₂ c₂' h₂ => ?_
  exact follows_node hs (.operands (.cons hn (.cons h₁.1 .nil))) h₂.2

theorem follows_called (hi : K.FollowsInside inner) (hs : K.Offsets start start')
    (hn : K.Like e e') (hts : List.Forall₂ K.Like types types') (h : K.Beside false c c') :
    K.Agree .refusing K.Like (called inner start e types c) (called inner start' e' types' c') := by
  unfold called
  refine (follows_arguments hi h).andThen fun found found' c₁ c₁' h₁ => ?_
  exact follows_node hs (.call hn hts h₁.1) h₁.2

/-- **What follows a primary expression extends it in both texts** or in none. -/
theorem follows_postfixStep (hi : K.FollowsInside inner) (hs : K.Offsets start start')
    (hn : K.Like e e') (h : K.Beside false c c') :
    K.Follows .refusing (Stepped (fun n m c c' => K.Like n m ∧ K.Beside false c c') e e')
      (postfixStep inner start e c) (postfixStep inner start' e' c') := by
  have hsome : ∀ {p q : Parser Node} {c c' : Cursor}, K.Agree .refusing K.Like (p c) (q c') →
      K.Follows .refusing (Stepped (fun n m c c' => K.Like n m ∧ K.Beside false c c') e e')
        ((p >>= fun n => pure (some n)) c) ((q >>= fun n => pure (some n)) c') :=
    fun hp => hp.andThen fun _ _ _ _ h₁ => .ok (.some h₁)
  have hpunct : ∀ {p : Char}, p ≠ ';' → c.current.isPunct p = c'.current.isPunct p :=
    h.similar.isPunct
  have hdot : (c.current.isPunct '?' && c.kindAhead 1 == .punct '.')
      = (c'.current.isPunct '?' && c'.kindAhead 1 == .punct '.') :=
    h.and_kindAhead (hpunct (by decide)) isEnd_of_isPunct TokenKind.noConfusion
      fun hf => absurd hf (by decide)
  have hequals : (c.current.isPunct '!' && c.kindAhead 1 != .punct '=')
      = (c'.current.isPunct '!' && c'.kindAhead 1 != .punct '=') :=
    h.and_kindAhead_ne (hpunct (by decide)) isEnd_of_isPunct TokenKind.noConfusion
      fun hf => absurd hf (by decide)
  have hindex : (c.current.isPunct '[' && !c.breaksLine)
      = (c'.current.isPunct '[' && !c'.breaksLine) := by
    rw [← hpunct (p := '[') (by decide)]
    cases hp : c.current.isPunct '[' with
    | false => rfl
    | true => rw [h.breaksLine (isEnd_of_isPunct hp)]
  unfold postfixStep
  rw [current_bind, current_bind, kindAhead_bind, kindAhead_bind, lineBreaks_bind,
    lineBreaks_bind, ← hpunct (p := '.') (by decide), ← hdot, ← hpunct (p := '(') (by decide),
    ← hpunct (p := '<') (by decide), ← hindex, ← hequals, ← h.similar.isWordOf]
  by_cases h₁ : (c.current.isPunct '.'
      || (c.current.isPunct '?' && c.kindAhead 1 == .punct '.')) = true
  · rw [if_pos h₁, if_pos h₁]
    refine hsome (follows_memberAccess hs hn h ?_ fun hq => ?_)
    · rcases Bool.or_eq_true_iff.mp h₁ with hp | hp
      · exact isEnd_of_isPunct hp
      · exact isEnd_of_isPunct (Bool.and_eq_true_iff.mp hp).1
    · -- a dot follows the question mark
      have hk : (c.kindAhead 1 == .punct '.') = true := by
        rcases Bool.or_eq_true_iff.mp h₁ with hp | hp
        · unfold Token.isPunct at hp hq
          rw [eq_of_beq hp] at hq
          exact absurd hq (by decide)
        · exact (Bool.and_eq_true_iff.mp hp).2
      unfold Cursor.kindAhead at hk
      rw [(h.rest_eq (isEnd_of_isPunct hq)).1] at hk
      exact kind_beq_isEnd TokenKind.noConfusion hk
  rw [if_neg h₁, if_neg h₁]
  by_cases h₂ : c.current.isPunct '(' = true
  · rw [if_pos h₂, if_pos h₂]
    exact hsome (follows_called hi hs hn .nil h)
  rw [if_neg h₂, if_neg h₂]
  by_cases h₃ : c.current.isPunct '<' = true
  · rw [if_pos h₃, if_pos h₃]
    refine (follows_typeArguments h).andThen ?_
    rintro o o' c₁ c₁' ⟨ho, h₁⟩
    cases ho with
    | none => exact .ok (.none ⟨hn, h₁⟩)
    | some hts => exact hsome (follows_called hi hs hn hts h₁)
  rw [if_neg h₃, if_neg h₃]
  by_cases h₄ : (c.current.isPunct '[' && !c.breaksLine) = true
  · rw [if_pos h₄, if_pos h₄]
    exact hsome (follows_indexed hi hs hn h (isEnd_of_isPunct (Bool.and_eq_true_iff.mp h₄).1))
  rw [if_neg h₄, if_neg h₄]
  by_cases h₅ : (c.current.isPunct '!' && c.kindAhead 1 != .punct '=') = true
  · rw [if_pos h₅, if_pos h₅, advance_bind, advance_bind]
    exact .ok (.some ⟨hn, h.next (isEnd_of_isPunct (Bool.and_eq_true_iff.mp h₅).1)⟩)
  rw [if_neg h₅, if_neg h₅]
  by_cases h₆ : c.current.isWordOf ["as", "satisfies"] = true
  · rw [if_pos h₆, if_pos h₆, advance_bind, advance_bind]
    have hnext := h.next (isEnd_of_isWordOf h₆)
    refine (follows_typeUntil (ending_isPunctOf (by decide)) true hnext hnext.closes).andThen ?_
    exact fun _ _ c₁ c₁' h₁ => .ok (.some ⟨hn, h₁.2.1⟩)
  rw [if_neg h₆, if_neg h₆]
  exact .ok (.none ⟨hn, h⟩)

theorem follows_postfixed (hi : K.FollowsInside inner) (h : K.Beside fresh c c') :
    K.Agree .refusing K.Like (postfixed inner c) (postfixed inner c') := by
  unfold postfixed
  rw [here_bind, here_bind]
  refine (follows_primary hi h).andThen fun first first' c₁ c₁' h₁ => ?_
  exact Follows.repeatWhile (fun _ _ _ _ h => h.2.remaining) (fun _ => Slack.ends_refusing _)
    (fun _ _ _ _ h₂ => follows_postfixStep hi h.start h₂.1 h₂.2) h₁

/-! ## Operators -/

theorem follows_operand (hi : K.FollowsInside inner) (h : K.Beside fresh c c') :
    K.Agree .refusing K.Like (operand inner c) (operand inner c') := by
  have htest : ∀ c c', K.Beside fresh c c' → atUnaryOperator c = atUnaryOperator c' := by
    intro c c' h
    unfold atUnaryOperator
    rw [h.similar.isPunctOf (by decide), h.and_kindAhead_ne (h.similar.isWordOf _)
      isEnd_of_isWordOf TokenKind.noConfusion TokenKind.noConfusion]
  unfold operand
  exact (follows_skipWhile htest (fun _ => isEnd_of_atUnaryOperator) h).andThen
    fun _ _ c₁ c₁' h₁ => follows_postfixed hi h₁

/-- Operands read in the two texts. -/
structure Operated (K : Comparison) (a b : Operands) : Prop where
  found : List.Forall₂ K.Like a.found b.found
  conditionals : a.conditionals = b.conditionals

theorem atOperator_eq (h : K.Beside fresh c c') : atOperator c = atOperator c' := by
  unfold atOperator
  rw [h.similar.isPunctOf (by decide), h.similar.isWordOf]

theorem follows_operatorStep (hi : K.FollowsInside inner) {a b : Operands} (hab : K.Operated a b)
    (h : K.Beside false c c') :
    K.Follows .refusing (Stepped (fun a b c c' => K.Operated a b ∧ K.Beside false c c') a b)
      (operatorStep inner a c) (operatorStep inner b c') := by
  have hoperand : ∀ {c c' : Cursor} (n : Nat), K.Beside false c c' →
      K.Follows .refusing (Stepped (fun a b c c' => K.Operated a b ∧ K.Beside false c c') a b)
        ((operand inner >>= fun x => pure (some (⟨x :: a.found, n⟩ : Operands))) c)
        ((operand inner >>= fun x => pure (some (⟨x :: b.found, n⟩ : Operands))) c') :=
    fun n h => (follows_operand hi h).andThen fun _ _ _ _ h₁ =>
      .ok (.some ⟨⟨.cons h₁.1 hab.found, rfl⟩, h₁.2⟩)
  have hquestion : (c.current.isPunct '?' && c.kindAhead 1 != .punct '?')
      = (c'.current.isPunct '?' && c'.kindAhead 1 != .punct '?') :=
    h.and_kindAhead_ne (h.similar.isPunct (by decide)) isEnd_of_isPunct TokenKind.noConfusion
      fun hf => absurd hf (by decide)
  unfold operatorStep
  rw [current_bind, current_bind, kindAhead_bind, kindAhead_bind,
    ← h.similar.isPunct (p := ':') (by decide), ← hquestion, ← hab.conditionals]
  by_cases h₁ : (c.current.isPunct ':' && decide (0 < a.conditionals)) = true
  · rw [if_pos h₁, if_pos h₁, advance_bind, advance_bind]
    exact hoperand _ (h.next (isEnd_of_isPunct (Bool.and_eq_true_iff.mp h₁).1))
  rw [if_neg h₁, if_neg h₁]
  by_cases h₂ : (c.current.isPunct '?' && c.kindAhead 1 != .punct '?') = true
  · rw [if_pos h₂, if_pos h₂, advance_bind, advance_bind]
    exact hoperand _ (h.next (isEnd_of_isPunct (Bool.and_eq_true_iff.mp h₂).1))
  rw [if_neg h₂, if_neg h₂, get_bind, get_bind, ← atOperator_eq h]
  by_cases h₃ : atOperator c = true
  · rw [if_pos h₃, if_pos h₃]
    refine (follows_skipWhile (fun _ _ => atOperator_eq) (fun _ => isEnd_of_atOperator)
      h).andThen fun _ _ c₁ c₁' h₁ => hoperand _ h₁
  rw [if_neg h₃, if_neg h₃]
  exact .ok (.none ⟨hab, h⟩)

/-- **Expressions** are read side by side. -/
theorem follows_operation (hi : K.FollowsInside inner) (h : K.Beside fresh c c') :
    K.Agree .refusing K.Like (operation inner c) (operation inner c') := by
  unfold operation
  rw [here_bind, here_bind]
  refine (follows_operand hi h).andThen fun first first' c₁ c₁' h₁ => ?_
  have hsteps := Follows.repeatWhile (s := .refusing) (fun _ _ _ _ h => h.2.remaining)
    (fun _ => Slack.ends_refusing _) (fun _ _ _ _ h => follows_operatorStep hi h.1 h.2)
    (a := ⟨[first], 0⟩) (b := ⟨[first'], 0⟩) ⟨⟨.cons h₁.1 .nil, rfl⟩, h₁.2⟩
  refine hsteps.andThen ?_
  rintro ⟨found, _⟩ ⟨found', _⟩ c₂ c₂' ⟨⟨hfound, _⟩, h₂⟩
  dsimp only at hfound ⊢
  cases hfound with
  | nil => exact follows_node h.start (.operands .nil) h₂
  | cons hn hrest =>
    cases hrest with
    | nil => exact .ok ⟨hn, h₂⟩
    | cons hm hrest =>
      exact follows_node h.start (.operands (List.rel_reverse (.cons hn (.cons hm hrest)))) h₂

/-! ## Where statements end -/

/-- **Where a statement ended**: side by side, or with the second run after the semicolon at the
end of the first text. -/
inductive Passed (K : Comparison) (c c' : Cursor) : Prop where
  | beside : K.Beside false c c' → K.Passed c c'
  | past : c.AtEnd → K.more = some (c'.current :: c'.rest) → K.Passed c c'

theorem Passed.store {form form' : Form Node} {range range' : TextRange} (h : K.Passed c c') :
    K.Passed (c.store form range) (c'.store form' range') := by
  cases h with
  | beside h => exact .beside h.store
  | past hc hm => exact .past ⟨hc.rest, hc.isEnd⟩ hm

theorem Passed.previousStop (h : K.Passed c c') : K.Offsets c.previousStop c'.previousStop := by
  cases h with
  | beside h => exact h.previousStop
  | past _ hm => exact K.free (hm ▸ Option.some_ne_none _) _ _

theorem Passed.indices (h : K.Passed c c') : K.Indices c.nextIndex c'.nextIndex := by
  cases h with
  | beside h => exact h.indices
  | past _ hm => exact K.unnumbered (hm ▸ Option.some_ne_none _) _ _

/-- A node over a statement with the semicolon after it. -/
theorem follows_statementNode {form form' : Form Node} (hs : K.Offsets start start')
    (hf : Form.Like K.Like K.Texts form form') (h : K.Passed c c') :
    K.Follows s (fun n m c c' => K.Like n m ∧ K.Passed c c') (node start form c)
      (node start' form' c') :=
  .ok ⟨K.like hf (K.ranges hs h.previousStop) h.indices, h.store⟩

/-- **The semicolon after a statement** is taken in both texts, in none, or in the second one
alone. -/
theorem follows_accept_semicolon (h : K.Beside false c c') :
    K.Follows s (fun _ _ c c' => K.Passed c c') (accept ';' c) (accept ';' c') := by
  rw [accept_run, accept_run]
  cases he : c.current.isEnd with
  | false =>
    have hs := h.same he
    have hp : c'.current.isPunct ';' = c.current.isPunct ';' := by
      unfold Token.isPunct
      rw [hs.kind]
    rw [hp]
    split
    · exact .ok (.beside (h.next he))
    · exact .ok (.beside h)
  | true =>
    obtain ⟨hend, hor⟩ := h.of_isEnd he
    rw [isPunct_of_atEnd hend, if_neg Bool.false_ne_true]
    rcases hor with ⟨_, he'⟩ | ⟨hm, hp⟩
    · have hp : c'.current.isPunct ';' = false := by
        unfold Token.isPunct
        rw [eq_of_beq he']
        rfl
      rw [hp]
      exact .ok (.beside h)
    · rw [hp, if_pos rfl]
      exact .ok (.past hend (h.more_eq he hm))

/-- Where it matters that the first text ended, nothing more is said of the second one. -/
theorem Follows.of_passed {α β : Type} {Q : α → β → Prop} {r : Except SyntaxFault (α × Cursor)}
    {r' : Except SyntaxFault (β × Cursor)}
    (h : K.Follows .refusing (fun a b c c' => Q a b ∧ K.Passed c c') r r') :
    K.Agree .spending Q r r' := by
  cases h with
  | ok h =>
    obtain ⟨hab, h⟩ := h
    cases h with
    | beside h => exact .ok ⟨hab, h⟩
    | past hc hm =>
      refine .gone (hm ▸ Option.some_ne_none _) fun _ _ hr => ?_
      cases hr
      exact hc
  | fault h => exact .fault h
  | gone hm h => exact .gone hm (spending_of_error h.choose_spec)

/-! ## Statements -/

theorem follows_importDeclaration (hs : K.Offsets start start') (h : K.Beside fresh c c')
    (he : c.current.isEnd = false) :
    K.Follows .refusing (fun n m c c' => K.Like n m ∧ K.Passed c c')
      (importDeclaration start c) (importDeclaration start' c') := by
  unfold importDeclaration
  rw [advance_bind, advance_bind]
  refine Follows.andThen (Follows.repeatWhile
    (I := fun a b c c' => a = b ∧ K.Beside false c c') (fun _ _ _ _ h => h.2.remaining)
    (fun _ => Slack.ends_refusing _) ?_ ⟨rfl, h.next he⟩) fun _ _ c₁ c₁' h₁ => ?_
  · rintro found _ c₁ c₁' ⟨rfl, h₁⟩
    cases found with
    | true => exact .ok (.none ⟨rfl, h₁⟩)
    | false =>
      rw [if_neg Bool.false_ne_true, current_bind, current_bind]
      cases he₁ : c₁.current.isEnd with
      | false =>
        have hs := h₁.same he₁
        rw [← hs.isEnd, he₁, if_neg Bool.false_ne_true, if_neg Bool.false_ne_true, advance_bind,
          advance_bind, ← hs.kind]
        exact .ok (.some ⟨rfl, h₁.next he₁⟩)
      | true =>
        rw [if_pos rfl]
        rcases h₁.of_isEnd he₁ with ⟨_, ⟨_, he'⟩ | ⟨hm, _⟩⟩
        · rw [he', if_pos rfl]
          exact follows_refuse h₁ _
        · exact .gone hm (refuse_eq_error _ c₁)
  · refine (follows_accept_semicolon h₁.2).andThen fun _ _ c₂ c₂' h₂ => ?_
    exact follows_statementNode hs .importDeclaration h₂

theorem follows_functionBody (hi : K.FollowsInside inner) (declared : Bool)
    (h : K.Beside false c c') :
    K.Follows .refusing (fun o o' c c' => Option.Rel K.Like o o' ∧ K.Passed c c')
      (functionBody inner declared c) (functionBody inner declared c') := by
  unfold functionBody
  rw [atPunct_bind, atPunct_bind, ← h.similar.isPunct (by decide), ite_run, ite_run]
  split
  · exact (hi.block h).andThen fun _ _ _ _ h₁ => .ok ⟨.some h₁.1, .beside h₁.2⟩
  · exact (follows_accept_semicolon h).andThen fun _ _ _ _ h₁ => .ok ⟨.none, h₁⟩

theorem follows_functionDeclaration (hi : K.FollowsInside inner) (hs : K.Offsets start start')
    (declared : Bool) (h : K.Beside fresh c c') (he : c.current.isEnd = false) :
    K.Follows .refusing (fun n m c c' => K.Like n m ∧ K.Passed c c')
      (functionDeclaration inner start declared c)
      (functionDeclaration inner start' declared c') := by
  unfold functionDeclaration
  rw [advance_bind, advance_bind]
  refine (follows_name (h.next he) _).andThen ?_
  rintro own _ c₁ c₁' ⟨rfl, h₁⟩
  refine (follows_typeParameters h₁).andThen ?_
  rintro names _ c₂ c₂' ⟨rfl, h₂⟩
  refine (follows_parameters hi h₂).andThen fun found found' c₃ c₃' h₃ => ?_
  have hends : K.Ending .refusing 0
      (·.isPunctOf (if declared then [';'] else [';', '\x7b'])) := by
    cases declared <;> exact ending_isPunctOf (by decide)
  refine (follows_typeAfterColon hends true h₃.2).andThen fun returned returned' c₄ c₄' h₄ => ?_
  refine (follows_functionBody hi declared h₄.2).andThen fun body body' c₅ c₅' h₅ => ?_
  exact follows_statementNode hs (.functionDeclaration h₃.1 h₄.1 h₅.1) h₅.2

theorem follows_variableDeclaration (hi : K.FollowsInside inner) (hs : K.Offsets start start')
    (h : K.Beside fresh c c') (he : c.current.isEnd = false) :
    K.Follows .refusing (fun n m c c' => K.Like n m ∧ K.Passed c c')
      (variableDeclaration inner start c) (variableDeclaration inner start' c') := by
  unfold variableDeclaration
  rw [advance_bind, advance_bind]
  refine (follows_name (h.next he) _).andThen ?_
  rintro own _ c₁ c₁' ⟨rfl, h₁⟩
  refine (follows_typeAfterColon (ending_isPunctOf (by decide)) true h₁).andThen
    fun annotated annotated' c₂ c₂' h₂ => ?_
  refine (follows_initialValue hi h₂.2).andThen fun initial initial' c₃ c₃' h₃ => ?_
  refine (follows_accept_semicolon h₃.2).andThen fun _ _ c₄ c₄' h₄ => ?_
  exact follows_statementNode hs (.variableDeclaration h₂.1 h₃.1) h₄

theorem follows_typeAlias (hs : K.Offsets start start') (h : K.Beside fresh c c')
    (he : c.current.isEnd = false) :
    K.Follows .refusing (fun n m c c' => K.Like n m ∧ K.Passed c c')
      (typeAlias start c) (typeAlias start' c') := by
  unfold typeAlias
  rw [advance_bind, advance_bind]
  refine (follows_name (h.next he) _).andThen fun _ _ c₁ c₁' h₁ => ?_
  refine (follows_typeParameters h₁.2).andThen fun _ _ c₂ c₂' h₂ => ?_
  refine (follows_expect h₂.2 (by decide) _).andThen fun _ _ c₃ c₃' h₃ => ?_
  have hends : K.Ending .refusing 0 (·.isPunct ';') :=
    ⟨fun hs => by unfold Token.isPunct; rw [hs.kind], fun _ _ _ ht => ht⟩
  refine (follows_typeUntil hends true h₃.2 h₃.2.closes).andThen fun n n' c₄ c₄' h₄ => ?_
  refine (follows_accept_semicolon h₄.2.1).andThen fun _ _ c₅ c₅' h₅ => ?_
  exact follows_statementNode hs (.typeAlias h₄.1) h₅

/-- The head of an interface ends before the first text does, or that text is refused. -/
theorem follows_interfaceDeclaration (hs : K.Offsets start start') (h : K.Beside fresh c c') :
    K.Follows .refusing (fun n m c c' => K.Like n m ∧ K.Passed c c')
      (interfaceDeclaration start c) (interfaceDeclaration start' c') := by
  unfold interfaceDeclaration
  refine Follows.bind_closed (s := .spending) (follows_skipWhile_spending (fun c c' h he => ?_)
    (fun c hc => ?_) h) (fun _ c₁ h₁ => ?_) fun _ _ c₁ c₁' h₁ => ?_
  · rw [h.similar.isPunct (by decide), (h.same he).isEnd]
  · exact Bool.not_eq_true' _ ▸ (Bool.and_eq_true_iff.mp hc).2
  · rw [atPunct_bind, isPunct_of_atEnd h₁, if_neg Bool.false_ne_true]
    exact refuse_eq_error _ c₁
  · rw [atPunct_bind, atPunct_bind, ← h₁.similar.isPunct (by decide), ite_run, ite_run]
    split
    · refine (follows_skipBracketed h₁).andThen fun _ _ c₂ c₂' h₂ => ?_
      exact follows_statementNode hs .skipped (.beside h₂)
    · exact follows_refuse h₁ _

/-- Whether a statement ends where it could have an expression does not depend on which text
ends. -/
theorem follows_returnedValue (hi : K.FollowsInside inner) (h : K.Beside false c c') :
    K.Agree .refusing (Option.Rel K.Like) (returnedValue inner c) (returnedValue inner c') := by
  unfold returnedValue
  rw [current_bind, current_bind, lineBreaks_bind, lineBreaks_bind]
  cases he : c.current.isEnd with
  | false =>
    have hs := h.same he
    rw [← hs.isPunctOf, ← hs.isEnd, he, ← h.breaksLine he, ite_run, ite_run]
    split
    · exact .ok ⟨.none, h⟩
    · exact (hi.expression h).andThen fun _ _ _ _ h₁ => .ok ⟨.some h₁.1, h₁.2⟩
  | true =>
    have hnone :
        (c'.current.isPunctOf [';', '\x7d'] || c'.current.isEnd || c'.breaksLine) = true := by
      rcases h.of_isEnd he with ⟨_, ⟨_, he'⟩ | ⟨_, hp⟩⟩
      · rw [he', Bool.or_true, Bool.true_or]
      · have hp : c'.current.isPunctOf [';', '\x7d'] = true := by
          unfold Token.isPunctOf
          rw [eq_of_beq hp]
          rfl
        rw [hp, Bool.true_or, Bool.true_or]
    rw [hnone, Bool.or_true, Bool.true_or]
    exact .ok ⟨.none, h⟩

theorem follows_returnStatement (hi : K.FollowsInside inner) (hs : K.Offsets start start')
    (h : K.Beside fresh c c') (he : c.current.isEnd = false) :
    K.Follows .refusing (fun n m c c' => K.Like n m ∧ K.Passed c c')
      (returnStatement inner start c) (returnStatement inner start' c') := by
  unfold returnStatement
  rw [advance_bind, advance_bind]
  refine (follows_returnedValue hi (h.next he)).andThen fun value value' c₁ c₁' h₁ => ?_
  refine (follows_accept_semicolon h₁.2).andThen fun _ _ c₂ c₂' h₂ => ?_
  exact follows_statementNode hs (.returnStatement h₁.1) h₂

theorem follows_ambientDeclaration (hi : K.FollowsInside inner) (hs : K.Offsets start start')
    (h : K.Beside fresh c c') (he : c.current.isEnd = false) :
    K.Follows .refusing (fun n m c c' => K.Like n m ∧ K.Passed c c')
      (ambientDeclaration inner start c) (ambientDeclaration inner start' c') := by
  have hnext := h.next he
  unfold ambientDeclaration
  rw [advance_bind, advance_bind, current_bind, current_bind, ← hnext.similar.isWord,
    ← hnext.similar.isWordOf]
  by_cases h₁ : c.next.current.isWord "function" = true
  · rw [if_pos h₁, if_pos h₁]
    exact follows_functionDeclaration hi hs true hnext (isEnd_of_isWord h₁)
  rw [if_neg h₁, if_neg h₁]
  by_cases h₂ : c.next.current.isWordOf variableWords = true
  · rw [if_pos h₂, if_pos h₂]
    exact follows_variableDeclaration hi hs hnext (isEnd_of_isWordOf h₂)
  rw [if_neg h₂, if_neg h₂]
  exact follows_refuse hnext _

/-- A word that starts a statement only before a name does so in both texts or in none. -/
theorem isWord_and_identifier_eq (h : K.Beside fresh c c') (word : String) :
    (c.current.isWord word && c.kindAhead 1 == .identifier)
      = (c'.current.isWord word && c'.kindAhead 1 == .identifier) :=
  h.and_kindAhead (h.similar.isWord word) isEnd_of_isWord TokenKind.noConfusion
    TokenKind.noConfusion

theorem follows_plainStatement (hi : K.FollowsInside inner) (hs : K.Offsets start start')
    (h : K.Beside fresh c c') :
    K.Follows .refusing (fun n m c c' => K.Like n m ∧ K.Passed c c')
      (plainStatement inner start c) (plainStatement inner start' c') := by
  have halias : (c.current.isWord "type" && c.kindAhead 1 == .identifier
        && (c.kindAhead 2 == .punct '=' || c.kindAhead 2 == .punct '<'))
      = (c'.current.isWord "type" && c'.kindAhead 1 == .identifier
        && (c'.kindAhead 2 == .punct '=' || c'.kindAhead 2 == .punct '<')) := by
    rw [← isWord_and_identifier_eq h]
    cases hw : (c.current.isWord "type" && c.kindAhead 1 == .identifier) with
    | false => rfl
    | true =>
      obtain ⟨hw, hk⟩ := Bool.and_eq_true_iff.mp hw
      rw [h.kindAhead_two (isEnd_of_isWord hw) (eq_of_beq hk) TokenKind.noConfusion
          fun hf => absurd hf (by decide),
        h.kindAhead_two (isEnd_of_isWord hw) (eq_of_beq hk) TokenKind.noConfusion
          fun hf => absurd hf (by decide)]
  unfold plainStatement
  rw [current_bind, current_bind, kindAhead_bind, kindAhead_bind, kindAhead_bind,
    kindAhead_bind, ← h.similar.isWord "declare", ← isWord_and_identifier_eq h "function",
    ← h.similar.isWordOf, ← halias, ← isWord_and_identifier_eq h "interface",
    ← h.similar.isWord "return", ← h.similar.isPunct (by decide)]
  by_cases h₁ : c.current.isWord "declare" = true
  · rw [if_pos h₁, if_pos h₁]
    exact follows_ambientDeclaration hi hs h (isEnd_of_isWord h₁)
  rw [if_neg h₁, if_neg h₁]
  by_cases h₂ : (c.current.isWord "function" && c.kindAhead 1 == .identifier) = true
  · rw [if_pos h₂, if_pos h₂]
    exact follows_functionDeclaration hi hs false h
      (isEnd_of_isWord (Bool.and_eq_true_iff.mp h₂).1)
  rw [if_neg h₂, if_neg h₂]
  by_cases h₃ : c.current.isWordOf variableWords = true
  · rw [if_pos h₃, if_pos h₃]
    exact follows_variableDeclaration hi hs h (isEnd_of_isWordOf h₃)
  rw [if_neg h₃, if_neg h₃]
  by_cases h₄ : (c.current.isWord "type" && c.kindAhead 1 == .identifier
      && (c.kindAhead 2 == .punct '=' || c.kindAhead 2 == .punct '<')) = true
  · rw [if_pos h₄, if_pos h₄]
    exact follows_typeAlias hs h
      (isEnd_of_isWord (Bool.and_eq_true_iff.mp (Bool.and_eq_true_iff.mp h₄).1).1)
  rw [if_neg h₄, if_neg h₄]
  by_cases h₅ : (c.current.isWord "interface" && c.kindAhead 1 == .identifier) = true
  · rw [if_pos h₅, if_pos h₅]
    exact follows_interfaceDeclaration hs h
  rw [if_neg h₅, if_neg h₅]
  by_cases h₆ : c.current.isWord "return" = true
  · rw [if_pos h₆, if_pos h₆]
    exact follows_returnStatement hi hs h (isEnd_of_isWord h₆)
  rw [if_neg h₆, if_neg h₆]
  by_cases h₇ : c.current.isPunct '\x7b' = true
  · rw [if_pos h₇, if_pos h₇]
    exact (hi.block h).imp fun _ _ _ _ hb => ⟨hb.1, .beside hb.2⟩
  rw [if_neg h₇, if_neg h₇]
  refine (hi.expression h).andThen fun n n' c₁ c₁' hn => ?_
  refine (follows_accept_semicolon hn.2).andThen fun _ _ c₂ c₂' hc => ?_
  exact follows_statementNode hs (.expressionStatement hn.1) hc

theorem follows_skipExports (h : K.Beside fresh c c') :
    K.Follows .refusing (fun _ _ c c' => K.Beside fresh c c') (skipExports c)
      (skipExports c') := by
  refine Follows.repeatWhile (fun _ _ _ _ h => h.remaining) (fun _ => Slack.ends_refusing _)
    (fun _ _ c c' h => ?_) h
  rw [atWord_bind, atWord_bind, ← h.similar.isWord, ite_run, ite_run]
  split
  · rename_i hw
    have hnext := h.next (isEnd_of_isWord hw)
    rw [advance_bind, advance_bind]
    refine (follows_skipIf hnext (hnext.similar.isWord _) isEnd_of_isWord).andThen ?_
    exact fun _ _ _ _ h₁ => .ok (.some h₁.weaken)
  · exact .ok (.none h)

/-- **Statements** are read side by side, from a place where nothing is known of what stands
before. -/
theorem follows_statement (hi : K.FollowsInside inner) (h : K.Beside fresh c c') :
    K.Follows .refusing (fun n m c c' => K.Like n m ∧ K.Passed c c') (statement inner c)
      (statement inner c') := by
  unfold statement
  rw [here_bind, here_bind, atWord_bind, atWord_bind, ← h.similar.isWord, ite_run, ite_run]
  split
  · rename_i hw
    exact follows_importDeclaration h.start h (isEnd_of_isWord hw)
  · exact (follows_skipExports h).andThen fun _ _ _ _ h₁ => follows_plainStatement hi h.start h₁

/-! ## Blocks and nesting -/

variable {inBlock : Bool} {found found' : List Node}

theorem isPunct_semicolon_eq (h : K.Beside fresh c c') (he : c.current.isEnd = false) :
    c.current.isPunct ';' = c'.current.isPunct ';' := by
  unfold Token.isPunct
  rw [(h.same he).kind]

/-- At the end of a text no statement is read. -/
theorem spending_statementStep (h : c.AtEnd) :
    Slack.spending.Allows (statementStep inner inBlock found c) := by
  have hskip : skipWhile (·.current.isPunct ';') c = .ok ((), c) := by
    refine repeatWhile_of_none ?_
    show (if c.current.isPunct ';' then _ else _) = _
    rw [isPunct_of_atEnd h]
    rfl
  unfold statementStep
  rw [bind_of_ok _ hskip, current_bind, h.isEnd]
  cases inBlock with
  | true => exact spending_of_error (refuse_eq_error _ c).choose_spec
  | false =>
    intro _ _ hr
    cases hr
    exact h

/-- **The next statement** is read in both texts or in none. Where the second text goes on, this is
so in a block alone. -/
theorem follows_statementStep (hi : K.FollowsInside inner)
    (hb : K.more ≠ none → inBlock = true) (hn : List.Forall₂ K.Like found found')
    (h : K.Beside true c c') :
    K.Follows .spending
      (Stepped (fun found found' c c' => List.Forall₂ K.Like found found' ∧ K.Beside true c c')
        found found')
      (statementStep inner inBlock found c) (statementStep inner inBlock found' c') := by
  have hskip : K.Follows .spending (fun _ _ c c' => K.Beside true c c')
      (skipWhile (·.current.isPunct ';') c) (skipWhile (·.current.isPunct ';') c') :=
    follows_skipWhile_spending (fun _ _ h he => isPunct_semicolon_eq h he)
      (fun _ hp => isEnd_of_isPunct hp) h
  unfold statementStep
  refine hskip.bind (fun _ _ c₁ hc₁ => ?_) fun _ _ c₁ c₁' h₁ => ?_
  · rw [current_bind, hc₁.isEnd]
    cases inBlock with
    | true => exact spending_of_error (refuse_eq_error _ c₁).choose_spec
    | false =>
      intro _ _ hr
      cases hr
      exact hc₁
  · rw [current_bind, current_bind, ← h₁.similar.isPunct (by decide)]
    cases he : c₁.current.isEnd with
    | true =>
      rcases h₁.of_isEnd he with ⟨_, ⟨_, he'⟩ | ⟨hm, _⟩⟩
      · rw [he', if_pos rfl, if_pos rfl]
        cases inBlock with
        | true => exact follows_refuse h₁ _
        | false => exact .ok (.none ⟨hn, h₁⟩)
      · rw [hb hm, if_pos rfl]
        exact .gone hm (spending_of_error (refuse_eq_error _ c₁).choose_spec)
    | false =>
      rw [← (h₁.same he).isEnd, he, if_neg Bool.false_ne_true, if_neg Bool.false_ne_true, ite_run,
        ite_run]
      split
      · exact .ok (.none ⟨hn, h₁⟩)
      · refine (follows_statement hi h₁).of_passed.bind (fun n _ c₂ hc₂ => ?_) ?_
        · intro _ _ hr
          cases hr
          exact hc₂
        · exact fun n n' c₂ c₂' h₂ => .ok (.some ⟨.cons h₂.1 hn, h₂.2.weaken⟩)

theorem follows_statements (hi : K.FollowsInside inner) (hb : K.more ≠ none → inBlock = true)
    (h : K.Beside true c c') :
    K.Follows .spending (fun ns ns' c c' => List.Forall₂ K.Like ns ns' ∧ K.Beside true c c')
      (statements inner inBlock c) (statements inner inBlock c') := by
  unfold statements
  refine (Follows.repeatWhile (fun _ _ _ _ h => h.2.remaining)
    (fun _ _ _ hc => spending_statementStep hc)
    (fun _ _ _ _ h => follows_statementStep hi hb h.1 h.2) ⟨.nil, h⟩).bind
    (fun _ _ c₁ hc₁ => ?_) fun ns ns' c₁ c₁' h₁ => .ok ⟨List.rel_reverse h₁.1, h₁.2⟩
  intro _ _ hr
  cases hr
  exact hc₁

/-- **A block** is read side by side: the brace that closes it stands in the first text. -/
theorem follows_block (hi : K.FollowsInside inner) (h : K.Beside fresh c c') :
    K.Agree .refusing K.Like (block inner c) (block inner c') := by
  unfold block
  refine (follows_expect h (by decide) _).andThen fun opening opening' c₁ c₁' h₁ => ?_
  refine Follows.bind_closed (s := .spending)
    (follows_statements hi (fun _ => rfl) h₁.2.weaken) (fun ns c₂ h₂ => ?_) ?_
  · obtain ⟨fault, hf⟩ := expect_of_atEnd h₂ "'\x7d'"
    exact ⟨fault, bind_of_error _ hf⟩
  · intro ns ns' c₂ c₂' h₂
    refine (follows_expect h₂.2 (by decide) _).andThen fun _ _ c₃ c₃' h₃ => ?_
    exact follows_node h₁.1 (.block h₂.1) h₃.2

theorem block_of_atEnd (h : c.AtEnd) : ∃ fault, block inner c = .error fault := by
  obtain ⟨fault, hf⟩ := expect_of_atEnd h "'\x7b'"
  exact ⟨fault, bind_of_error _ hf⟩

/-- **On every level of nesting** expressions and blocks are read side by side. -/
theorem followsInside_within (levels : Nat) : K.FollowsInside (within levels) := by
  induction levels with
  | zero =>
    exact ⟨fun _ => .fault fun _ => rfl, fun _ => .fault fun _ => rfl, fun _ => ⟨_, rfl⟩⟩
  | succ levels ih =>
    exact ⟨follows_operation ih, follows_block ih, block_of_atEnd⟩

/-- **Scripts that end together** are read side by side. -/
theorem follows_script (hm : K.more = none) (h : K.Beside true c c') :
    K.Follows .exact (fun ns ns' c c' => List.Forall₂ K.Like ns ns' ∧ K.Beside true c c')
      (script c) (script c') := by
  have hscript : K.Follows .spending
      (fun ns ns' c c' => List.Forall₂ K.Like ns ns' ∧ K.Beside true c c') (script c)
      (script c') :=
    follows_statements (followsInside_within maxNesting) (fun hn => absurd hm hn) h
  generalize script c = run, script c' = run' at hscript ⊢
  cases hscript with
  | ok h => exact .ok h
  | fault h => exact .fault h
  | gone hn => exact absurd hm hn

end Comparison

end TypeTest
