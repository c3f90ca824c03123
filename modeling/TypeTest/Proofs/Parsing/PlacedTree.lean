import TypeTest.Proofs.Parsing.Reads
import TypeTest.Script.File

/-!
# The nodes of a parsed script are placed

Every parser of the grammar reads what it gives. There is one lemma for each, in the
order of the grammar, and each is the composition of those of its parts; a parser that
completes what began further back is given the span from there. The recursion between
expressions and blocks is closed by induction on the levels of nesting, and at the end
stands the whole script.
-/

namespace TypeTest

namespace Parser

variable {ts : List Token} {inner : Inner} {c c₀ c' : Cursor} {n e : Node} {types : List Node}

section InOrder

variable (hts : Token.InOrder ts)

include hts

/-! ## Functions -/

theorem reads_element (hi : inner.Reads ts) : Reads ts (element inner) ([·]) := by
  intro c c' n hc h
  unfold element at h
  rw [current_bind] at h
  split at h
  · rw [advance_bind] at h
    obtain ⟨e, c₁, _, s, h⟩ := (Span.next hc).bind hts hi.expression h
    cases h
    exact s.parent hts (List.cons_ne_nil _ _) rfl
  · exact hi.expression hc h

theorem takes_parameterName : Takes ts parameterName fun _ => [] := by
  intro c c' own hc h
  unfold parameterName at h
  rw [current_bind] at h
  split at h
  · obtain ⟨_, c₁, hb, h⟩ := bind_eq_ok.mp h
    cases h
    exact takes_skipBracketed hts hc hb
  · exact takes_name hts _ hc h

theorem reads_initialValue (hi : inner.Reads ts) :
    Reads ts (initialValue inner) Option.toList := by
  intro c c' value hc h
  obtain ⟨_, c₁, _, s, h⟩ := (Span.refl hc).pass hts (reads_accept '=') h
  split at h
  · obtain ⟨e, c₂, _, s, h⟩ := s.bind hts hi.expression h
    cases h
    exact s
  · cases h
    exact s

theorem reads_parameter (hi : inner.Reads ts) : Reads ts (parameter inner) ([·]) := by
  intro c c' n hc h
  unfold parameter at h
  rw [here_bind] at h
  obtain ⟨_, c₁, _, s, h⟩ := (Span.refl hc).pass hts (reads_skipIf _) h
  obtain ⟨own, c₂, hown, h⟩ := bind_eq_ok.mp h
  obtain ⟨so, hlt⟩ := takes_parameterName hts s.stop hown
  obtain ⟨_, c₃, _, s', h⟩ := (Span.refl so.stop).pass hts (reads_accept '?') h
  obtain ⟨annotated, c₄, _, s', h⟩ := s'.bind hts (reads_typeAfterColon hts _ _) h
  obtain ⟨initial, c₅, _, s', h⟩ := s'.bind hts (reads_initialValue hts hi) h
  cases h
  refine ((s.skip hts so).trans hts s').other hts ?_ rfl
  exact Nat.lt_of_lt_of_le (Nat.lt_of_le_of_lt s'.le hlt) s.le

theorem takes_parameters (hi : inner.Reads ts) : Takes ts (parameters inner) id := by
  intro c c' found hc h
  obtain ⟨_, c₁, ho, h⟩ := bind_eq_ok.mp h
  obtain ⟨hp, _, rfl⟩ := expect_ok ho
  obtain ⟨found, c₂, _, s, h⟩ :=
    (Span.refl hc.next).bind hts (reads_commaList hts ')' (reads_parameter hts hi)) h
  obtain ⟨_, c₃, _, s, h⟩ := s.pass hts (reads_expect _ _) h
  cases h
  exact s.of_next hts hc (isEnd_of_isPunct hp)

theorem span_functionRest (hi : inner.Reads ts) (s : Span ts c₀ [] c)
    (h : functionRest inner c₀.current.start c = .ok (n, c')) : Span ts c₀ [n] c' := by
  obtain ⟨found, c₁, _, s, h⟩ := s.bind hts (takes_parameters hts hi).reads h
  obtain ⟨returned, c₂, _, s, h⟩ := s.bind hts (reads_typeAfterColon hts _ _) h
  obtain ⟨body, c₃, _, s, h⟩ := s.bind hts hi.block h
  cases h
  exact s.parent hts (by simp [Form.children]) rfl

theorem reads_functionExpression (hi : inner.Reads ts) :
    Reads ts (functionExpression inner) ([·]) := by
  intro c c' n hc h
  unfold functionExpression at h
  rw [here_bind, advance_bind] at h
  obtain ⟨_, c₁, _, s, h⟩ := (Span.next hc).pass hts (reads_skipIf _) h
  exact span_functionRest hts hi s h

theorem reads_arrowParameters (hi : inner.Reads ts) : Reads ts (arrowParameters inner) id := by
  intro c c' found hc h
  unfold arrowParameters at h
  rw [current_bind] at h
  split at h
  · rename_i hid
    cases h
    exact Span.leaf hts hc (isEnd_of_isIdentifier hid) rfl
  · exact (takes_parameters hts hi hc h).1

omit hts in
theorem reads_arrowBody (hi : inner.Reads ts) : Reads ts (arrowBody inner) ([·]) := by
  intro c c' n hc h
  unfold arrowBody at h
  rw [atPunct_bind] at h
  split at h
  · exact hi.block hc h
  · exact hi.expression hc h

theorem reads_arrowFunction (hi : inner.Reads ts) : Reads ts (arrowFunction inner) ([·]) := by
  intro c c' n hc h
  unfold arrowFunction at h
  rw [here_bind] at h
  obtain ⟨found, c₁, _, s, h⟩ := (Span.refl hc).bind hts (reads_arrowParameters hts hi) h
  obtain ⟨returned, c₂, _, s, h⟩ := s.bind hts (reads_typeAfterColon hts _ _) h
  rw [current_bind] at h
  split at h
  · rw [advance_bind] at h
    obtain ⟨body, c₃, _, s, h⟩ :=
      (s.skip hts (.next s.stop)).bind hts (reads_arrowBody hi) h
    cases h
    exact s.parent hts (by simp [Form.children]) rfl
  · exact absurd h refuse_ne_ok

/-! ## Literals -/

theorem reads_property (hi : inner.Reads ts) : Reads ts (property inner) ([·]) := by
  intro c c' n hc h
  unfold property at h
  rw [here_bind, current_bind] at h
  split at h
  · exact reads_element hts hi hc h
  · -- what follows a key tells the members of an object apart
    cases hk : propertyName c.current with
    | none =>
      simp only [hk] at h
      exact absurd h refuse_ne_ok
    | some key =>
      simp only [hk, advance_bind] at h
      have hlt := hc.remaining_next_lt hts.last (isEnd_of_propertyName hk)
      obtain ⟨colon, c₁, hcolon, s, h⟩ := (Span.next hc).pass hts (reads_accept ':') h
      split at h
      · obtain ⟨e, c₂, _, s, h⟩ := s.bind hts hi.expression h
        cases h
        exact s.parent hts (List.cons_ne_nil _ _) rfl
      · rw [atPunct_bind] at h
        have hle := (reads_accept ':' hc.next hcolon).le
        split at h
        · rw [here_bind] at h
          obtain ⟨member, c₂, hm, h⟩ := bind_eq_ok.mp h
          cases h
          have s := s.trans hts (span_functionRest hts hi (.refl s.stop) hm)
          exact s.parent hts (List.cons_ne_nil _ _) rfl
        · cases h
          exact s.other hts (Nat.lt_of_le_of_lt hle hlt) rfl

theorem reads_objectLiteral (hi : inner.Reads ts) : Reads ts (objectLiteral inner) ([·]) := by
  intro c c' n hc h
  obtain ⟨_, c₁, ho, h⟩ := bind_eq_ok.mp h
  obtain ⟨hp, rfl, rfl⟩ := expect_ok ho
  obtain ⟨found, c₂, _, s, h⟩ :=
    (Span.refl hc.next).bind hts (reads_commaList hts _ (reads_property hts hi)) h
  obtain ⟨_, c₃, _, s, h⟩ := s.pass hts (reads_expect _ _) h
  cases h
  obtain ⟨s, hlt⟩ := s.of_next hts hc (isEnd_of_isPunct hp)
  exact s.other hts hlt rfl

/-- What stands between a token and a closing bracket is a node over both. -/
theorem reads_arrayLiteral (hi : inner.Reads ts) (hc : c.On ts)
    (hp : c.current.isEnd = false) (h : arrayLiteral inner c = .ok (n, c')) :
    Span ts c [n] c' := by
  unfold arrayLiteral at h
  rw [here_bind, advance_bind] at h
  obtain ⟨found, c₂, _, s, h⟩ :=
    (Span.refl hc.next).bind hts (reads_commaList hts _ (reads_element hts hi)) h
  obtain ⟨_, c₃, _, s, h⟩ := s.pass hts (reads_expect _ _) h
  cases h
  obtain ⟨s, hlt⟩ := s.of_next hts hc hp
  exact s.other hts hlt rfl

theorem reads_parenthesized (hi : inner.Reads ts) : Reads ts (parenthesized inner) ([·]) := by
  intro c c' n hc h
  unfold parenthesized at h
  rw [here_bind, advance_bind] at h
  obtain ⟨e, c₂, _, s, h⟩ := (Span.next hc).bind hts hi.expression h
  obtain ⟨_, c₃, _, s, h⟩ := s.pass hts (reads_expect _ _) h
  cases h
  exact s.parent hts (List.cons_ne_nil _ _) rfl

/-! ## Primary expressions and what follows them -/

theorem span_leaf {form : Form Node} (hc : c.On ts) (he : c.current.isEnd = false)
    (hf : form.children = []) (h : leaf form c = .ok (n, c')) : Span ts c [n] c' := by
  unfold leaf at h
  rw [advance_bind] at h
  cases h
  exact .leaf hts hc he hf

theorem reads_plainPrimary (hi : inner.Reads ts) : Reads ts (plainPrimary inner) ([·]) := by
  intro c c' n hc h
  unfold plainPrimary at h
  rw [current_bind] at h
  have he : ∀ k, c.current.kind = k → k ≠ .endOfText → c.current.isEnd = false := by
    intro k hk hne
    unfold Token.isEnd
    rw [hk]
    exact beq_false_of_ne hne
  cases hk : c.current.kind with
  | identifier =>
    simp only [hk] at h
    split at h
    · exact reads_functionExpression hts hi hc h
    · rw [kindAhead_bind] at h
      split at h
      · exact reads_arrowFunction hts hi hc h
      · exact span_leaf hts hc (he _ hk TokenKind.noConfusion) rfl h
  | string value =>
    simp only [hk] at h
    exact span_leaf hts hc (he _ hk TokenKind.noConfusion) rfl h
  | template value substitutions =>
    simp only [hk] at h
    refine span_leaf hts hc (he _ hk TokenKind.noConfusion) ?_ h
    split <;> rfl
  | number =>
    simp only [hk] at h
    exact span_leaf hts hc (he _ hk TokenKind.noConfusion) rfl h
  | punct p =>
    by_cases h₁ : p = '('
    · subst h₁
      simp only [hk] at h
      obtain ⟨ahead, c₁, ha, h⟩ := bind_eq_ok.mp h
      cases ha
      split at h
      · exact reads_arrowFunction hts hi hc h
      · exact reads_parenthesized hts hi hc h
    by_cases h₂ : p = '['
    · subst h₂
      simp only [hk] at h
      exact reads_arrayLiteral hts hi hc (he _ hk TokenKind.noConfusion) h
    by_cases h₃ : p = '\x7b'
    · subst h₃
      simp only [hk] at h
      exact reads_objectLiteral hts hi hc h
    · simp [hk, h₁, h₂, h₃] at h
      exact absurd h refuse_ne_ok
  | arrow | ellipsis | endOfText =>
    simp only [hk] at h
    exact absurd h refuse_ne_ok

theorem reads_primary (hi : inner.Reads ts) : Reads ts (primary inner) ([·]) := by
  intro c c' n hc h
  unfold primary at h
  rw [get_bind] at h
  split at h
  · rw [advance_bind] at h
    exact (Span.next hc).trans hts (reads_plainPrimary hts hi hc.next h)
  · exact reads_plainPrimary hts hi hc h

theorem takes_arguments (hi : inner.Reads ts) : Takes ts (arguments inner) id := by
  intro c c' found hc h
  obtain ⟨_, c₁, ho, h⟩ := bind_eq_ok.mp h
  obtain ⟨hp, _, rfl⟩ := expect_ok ho
  obtain ⟨found, c₂, _, s, h⟩ :=
    (Span.refl hc.next).bind hts (reads_commaList hts ')' (reads_element hts hi)) h
  obtain ⟨_, c₃, _, s, h⟩ := s.pass hts (reads_expect _ _) h
  cases h
  exact s.of_next hts hc (isEnd_of_isPunct hp)

theorem span_memberAccess (s : Span ts c₀ [e] c)
    (h : memberAccess c₀.current.start e c = .ok (n, c')) : Span ts c₀ [n] c' := by
  obtain ⟨_, c₁, _, s, h⟩ := s.pass hts (reads_skipIf _) h
  obtain ⟨_, c₂, _, s, h⟩ := s.pass hts reads_advance h
  obtain ⟨_, c₃, _, s, h⟩ := s.pass hts (reads_name _) h
  cases h
  exact s.parent hts (List.cons_ne_nil _ _) rfl

theorem span_indexed (hi : inner.Reads ts) (s : Span ts c₀ [e] c)
    (h : indexed inner c₀.current.start e c = .ok (n, c')) : Span ts c₀ [n] c' := by
  obtain ⟨_, c₁, _, s, h⟩ := s.pass hts reads_advance h
  obtain ⟨index, c₂, _, s, h⟩ := s.bind hts hi.expression h
  obtain ⟨_, c₃, _, s, h⟩ := s.pass hts (reads_expect _ _) h
  cases h
  exact s.parent hts (List.cons_ne_nil _ _) rfl

/-- **A call goes on after its callee**: its arguments take tokens. -/
theorem span_called (hi : inner.Reads ts) (s : Span ts c₀ (e :: types) c)
    (htypes : ∀ type ∈ types, type.IsArgument ts)
    (h : called inner c₀.current.start e types c = .ok (n, c')) : Span ts c₀ [n] c' := by
  obtain ⟨found, c₁, ha, h⟩ := bind_eq_ok.mp h
  cases h
  obtain ⟨sa, hlt⟩ := takes_arguments hts hi s.stop ha
  have s' := s.trans hts sa
  refine s'.node hts (s'.remaining_lt hts (List.cons_ne_nil _ _)) (fun f ts as hf => ?_)
  cases hf
  refine ⟨?_, htypes⟩
  -- the callee stops before the arguments start, and these cover some text
  have h₁ := s.row.2.1
  have h₂ := s.stop.previousStop_le hts
  have h₃ := s.stop.start_lt_previousStop hts s'.stop hlt
  omega

/-- **What follows a primary expression extends it**, or leaves it as it is. -/
theorem span_postfixStep (hi : inner.Reads ts) (s : Span ts c₀ [e] c) {found : Option Node}
    (h : postfixStep inner c₀.current.start e c = .ok (found, c')) :
    Span ts c₀ [found.getD e] c' := by
  unfold postfixStep at h
  rw [current_bind, kindAhead_bind, lineBreaks_bind] at h
  split at h
  · obtain ⟨m, c₁, hm, h⟩ := bind_eq_ok.mp h
    cases h
    exact span_memberAccess hts s hm
  split at h
  · obtain ⟨m, c₁, hm, h⟩ := bind_eq_ok.mp h
    cases h
    exact span_called hts hi s nofun hm
  split at h
  · have hstart := s.stop
    obtain ⟨arguments, c₁, ha, s, h⟩ := s.bind hts (reads_typeArguments hts) h
    split at h
    · cases h
      exact s
    · obtain ⟨m, c₂, hm, h⟩ := bind_eq_ok.mp h
      cases h
      refine span_called hts hi ?_ (isArgument_of_typeArguments hts hstart ha) hm
      simpa using s
  split at h
  · obtain ⟨m, c₁, hm, h⟩ := bind_eq_ok.mp h
    cases h
    exact span_indexed hts hi s hm
  split at h
  · cases h
    exact s.skip hts (.next s.stop)
  split at h
  · obtain ⟨_, c₁, _, s, h⟩ := s.pass hts reads_advance h
    obtain ⟨_, c₂, ht, h⟩ := bind_eq_ok.mp h
    cases h
    -- the type after the word is read over, its node is dropped
    have st := reads_typeUntil hts _ _ s.stop ht
    exact s.skip hts st.drop
  · cases h
    exact s

theorem reads_postfixed (hi : inner.Reads ts) : Reads ts (postfixed inner) ([·]) := by
  intro c c' n hc h
  unfold postfixed at h
  rw [here_bind] at h
  obtain ⟨first, c₁, _, s, h⟩ := (Span.refl hc).bind hts (reads_primary hts hi) h
  refine repeatWhile_invariant (fun e c₁ => Span ts c [e] c₁) ?_ ?_ s h
  · exact fun e c₁ c₂ s h => span_postfixStep hts hi s h
  · exact fun e e' c₁ c₂ s h => span_postfixStep hts hi s h

/-! ## Operators -/

theorem reads_operand (hi : inner.Reads ts) : Reads ts (operand inner) ([·]) := by
  intro c c' n hc h
  obtain ⟨_, c₁, _, s, h⟩ := (Span.refl hc).pass hts (reads_skipWhile hts _) h
  exact s.trans hts (reads_postfixed hts hi s.stop h)

/-- **A step between operands** takes an operator and adds the operand after it. -/
theorem span_operatorStep (hi : inner.Reads ts) {o o' : Operands}
    (s : Span ts c₀ o.found.reverse c) (h : operatorStep inner o c = .ok (some o', c')) :
    Span ts c₀ o'.found.reverse c' ∧ o'.found ≠ [] := by
  unfold operatorStep at h
  rw [current_bind, kindAhead_bind] at h
  split at h
  · rw [advance_bind] at h
    obtain ⟨n, c₁, _, s, h⟩ := (s.skip hts (.next s.stop)).bind hts (reads_operand hts hi) h
    cases h
    rw [List.reverse_cons]
    exact ⟨s, List.cons_ne_nil _ _⟩
  split at h
  · rw [advance_bind] at h
    obtain ⟨n, c₁, _, s, h⟩ := (s.skip hts (.next s.stop)).bind hts (reads_operand hts hi) h
    cases h
    rw [List.reverse_cons]
    exact ⟨s, List.cons_ne_nil _ _⟩
  rw [get_bind] at h
  split at h
  · obtain ⟨_, c₁, _, s, h⟩ := s.pass hts (reads_skipWhile hts _) h
    obtain ⟨n, c₂, _, s, h⟩ := s.bind hts (reads_operand hts hi) h
    cases h
    rw [List.reverse_cons]
    exact ⟨s, List.cons_ne_nil _ _⟩
  · cases h

/-- **An expression is its only operand**, or a node over all of them. -/
theorem reads_operation (hi : inner.Reads ts) : Reads ts (operation inner) ([·]) := by
  intro c c' n hc h
  unfold operation at h
  rw [here_bind] at h
  obtain ⟨first, c₁, _, s, h⟩ := (Span.refl hc).bind hts (reads_operand hts hi) h
  obtain ⟨⟨found, waiting⟩, c₂, ho, h⟩ := bind_eq_ok.mp h
  obtain ⟨s, hne⟩ : Span ts c found.reverse c₂ ∧ found ≠ [] := by
    refine repeatWhile_invariant
      (fun (o : Operands) c₁ => Span ts c o.found.reverse c₁ ∧ o.found ≠ [])
      ?_ ?_ (s := ⟨[first], 0⟩) ⟨s, List.cons_ne_nil _ _⟩ ho
    · intro o c₃ c₄ hI h
      rw [operatorStep_none h]
      exact hI
    · exact fun o o' c₃ c₄ hI h => span_operatorStep hts hi hI.1 h
  cases found with
  | nil => exact absurd rfl hne
  | cons last found =>
    cases found with
    | nil =>
      cases h
      exact s
    | cons second found =>
      cases h
      refine s.parent hts ?_ rfl
      exact fun h => hne (List.reverse_eq_nil_iff.mp h)

/-! ## Statements

The parsers for what stands in a statement complete it from its first word on, so they
are given the span since then. -/

theorem span_importDeclaration (s : Span ts c₀ [] c) (hp : c.current.isEnd = false)
    (h : importDeclaration c₀.current.start c = .ok (n, c')) : Span ts c₀ [n] c' := by
  unfold importDeclaration at h
  rw [advance_bind] at h
  have hlt := Nat.lt_of_lt_of_le (s.stop.remaining_next_lt hts.last hp) s.le
  have s := s.skip hts (.next s.stop)
  obtain ⟨_, c₁, hr, h⟩ := bind_eq_ok.mp h
  have sr : Span ts c.next [] c₁ := by
    refine repeatWhile_invariant (fun _ c₁ => Span ts c.next [] c₁) ?_ ?_ (.refl s.stop) hr
    · intro found c₂ c₃ s h
      split at h
      · cases h
        exact s
      · rw [current_bind] at h
        split at h
        · exact absurd h refuse_ne_ok
        · cases h
    · intro found found' c₂ c₃ s h
      split at h
      · cases h
      · rw [current_bind] at h
        split at h
        · exact absurd h refuse_ne_ok
        · cases h
          exact s.skip hts (.next s.stop)
  obtain ⟨_, c₂, _, sr, h⟩ := sr.pass hts (reads_accept ';') h
  cases h
  exact (s.skip hts sr).other hts (Nat.lt_of_le_of_lt sr.le hlt) rfl

theorem reads_functionBody (hi : inner.Reads ts) (declared : Bool) :
    Reads ts (functionBody inner declared) Option.toList := by
  intro c c' body hc h
  unfold functionBody at h
  rw [atPunct_bind] at h
  split at h
  · obtain ⟨b, c₁, _, s, h⟩ := (Span.refl hc).bind hts hi.block h
    cases h
    exact s
  · obtain ⟨_, c₁, _, s, h⟩ := (Span.refl hc).pass hts (reads_accept ';') h
    cases h
    exact s

theorem span_functionDeclaration (hi : inner.Reads ts) {declared : Bool} (s : Span ts c₀ [] c)
    (h : functionDeclaration inner c₀.current.start declared c = .ok (n, c')) :
    Span ts c₀ [n] c' := by
  obtain ⟨_, c₁, _, s, h⟩ := s.pass hts reads_advance h
  obtain ⟨own, c₂, hn, h⟩ := bind_eq_ok.mp h
  obtain ⟨sn, hlt⟩ := takes_name hts _ s.stop hn
  obtain ⟨_, c₃, _, s', h⟩ := (Span.refl sn.stop).pass hts (reads_typeParameters hts) h
  obtain ⟨found, c₄, _, s', h⟩ := s'.bind hts (takes_parameters hts hi).reads h
  obtain ⟨returned, c₅, _, s', h⟩ := s'.bind hts (reads_typeAfterColon hts _ _) h
  obtain ⟨body, c₆, _, s', h⟩ := s'.bind hts (reads_functionBody hts hi _) h
  cases h
  refine ((s.skip hts sn).trans hts s').other hts ?_ rfl
  exact Nat.lt_of_lt_of_le (Nat.lt_of_le_of_lt s'.le hlt) s.le

theorem span_variableDeclaration (hi : inner.Reads ts) (s : Span ts c₀ [] c)
    (h : variableDeclaration inner c₀.current.start c = .ok (n, c')) : Span ts c₀ [n] c' := by
  obtain ⟨_, c₁, _, s, h⟩ := s.pass hts reads_advance h
  obtain ⟨own, c₂, hn, h⟩ := bind_eq_ok.mp h
  obtain ⟨sn, hlt⟩ := takes_name hts _ s.stop hn
  obtain ⟨annotated, c₃, _, s', h⟩ :=
    (Span.refl sn.stop).bind hts (reads_typeAfterColon hts _ _) h
  obtain ⟨initial, c₄, _, s', h⟩ := s'.bind hts (reads_initialValue hts hi) h
  obtain ⟨_, c₅, _, s', h⟩ := s'.pass hts (reads_accept ';') h
  cases h
  refine ((s.skip hts sn).trans hts s').other hts ?_ rfl
  exact Nat.lt_of_lt_of_le (Nat.lt_of_le_of_lt s'.le hlt) s.le

theorem span_typeAlias (s : Span ts c₀ [] c)
    (h : typeAlias c₀.current.start c = .ok (n, c')) : Span ts c₀ [n] c' := by
  obtain ⟨_, c₁, _, s, h⟩ := s.pass hts reads_advance h
  obtain ⟨_, c₂, _, s, h⟩ := s.pass hts (reads_name _) h
  obtain ⟨_, c₃, _, s, h⟩ := s.pass hts (reads_typeParameters hts) h
  obtain ⟨_, c₄, _, s, h⟩ := s.pass hts (reads_expect _ _) h
  obtain ⟨aliased, c₅, _, s, h⟩ := s.bind hts (reads_typeUntil hts _ _) h
  obtain ⟨_, c₆, _, s, h⟩ := s.pass hts (reads_accept ';') h
  cases h
  exact s.parent hts (List.cons_ne_nil _ _) rfl

theorem span_interfaceDeclaration (s : Span ts c₀ [] c)
    (h : interfaceDeclaration c₀.current.start c = .ok (n, c')) : Span ts c₀ [n] c' := by
  obtain ⟨_, c₁, _, s, h⟩ := s.pass hts (reads_skipWhile hts _) h
  rw [atPunct_bind] at h
  split at h
  · obtain ⟨_, c₂, hb, h⟩ := bind_eq_ok.mp h
    cases h
    obtain ⟨sb, hlt⟩ := takes_skipBracketed hts s.stop hb
    exact (s.skip hts sb).other hts (Nat.lt_of_lt_of_le hlt s.le) rfl
  · exact absurd h refuse_ne_ok

theorem reads_returnedValue (hi : inner.Reads ts) :
    Reads ts (returnedValue inner) Option.toList := by
  intro c c' value hc h
  unfold returnedValue at h
  rw [current_bind, lineBreaks_bind] at h
  split at h
  · cases h
    exact .refl hc
  · obtain ⟨e, c₁, _, s, h⟩ := (Span.refl hc).bind hts hi.expression h
    cases h
    exact s

theorem span_returnStatement (hi : inner.Reads ts) (s : Span ts c₀ [] c)
    (hp : c.current.isEnd = false)
    (h : returnStatement inner c₀.current.start c = .ok (n, c')) : Span ts c₀ [n] c' := by
  unfold returnStatement at h
  rw [advance_bind] at h
  have hlt := Nat.lt_of_lt_of_le (s.stop.remaining_next_lt hts.last hp) s.le
  obtain ⟨value, c₁, _, s', h⟩ :=
    (Span.refl s.stop.next).bind hts (reads_returnedValue hts hi) h
  obtain ⟨_, c₂, _, s', h⟩ := s'.pass hts (reads_accept ';') h
  cases h
  exact ((s.skip hts (.next s.stop)).trans hts s').other hts (Nat.lt_of_le_of_lt s'.le hlt) rfl

theorem span_ambientDeclaration (hi : inner.Reads ts) (s : Span ts c₀ [] c)
    (h : ambientDeclaration inner c₀.current.start c = .ok (n, c')) : Span ts c₀ [n] c' := by
  obtain ⟨_, c₁, _, s, h⟩ := s.pass hts reads_advance h
  rw [current_bind] at h
  split at h
  · exact span_functionDeclaration hts hi s h
  split at h
  · exact span_variableDeclaration hts hi s h
  · exact absurd h refuse_ne_ok

theorem span_plainStatement (hi : inner.Reads ts) (s : Span ts c₀ [] c)
    (h : plainStatement inner c₀.current.start c = .ok (n, c')) : Span ts c₀ [n] c' := by
  unfold plainStatement at h
  rw [current_bind, kindAhead_bind, kindAhead_bind] at h
  split at h
  · exact span_ambientDeclaration hts hi s h
  split at h
  · exact span_functionDeclaration hts hi s h
  split at h
  · exact span_variableDeclaration hts hi s h
  split at h
  · exact span_typeAlias hts s h
  split at h
  · exact span_interfaceDeclaration hts s h
  split at h
  · rename_i hw
    exact span_returnStatement hts hi s (isEnd_of_isWord hw) h
  split at h
  · exact s.trans hts (hi.block s.stop h)
  · obtain ⟨e, c₁, _, s, h⟩ := s.bind hts hi.expression h
    obtain ⟨_, c₂, _, s, h⟩ := s.pass hts (reads_accept ';') h
    cases h
    exact s.parent hts (List.cons_ne_nil _ _) rfl

theorem reads_skipExports : Reads ts skipExports fun _ => [] := by
  intro c c' u hc h
  refine repeatWhile_invariant (fun _ c₁ => Span ts c [] c₁) ?_ ?_ (.refl hc) h
  · intro _ c₁ c₂ s h
    rw [atWord_bind] at h
    split at h
    · rw [advance_bind] at h
      obtain ⟨_, _, _, h⟩ := bind_eq_ok.mp h
      cases h
    · cases h
      exact s
  · intro _ _ c₁ c₂ s h
    rw [atWord_bind] at h
    split at h
    · rw [advance_bind] at h
      obtain ⟨_, c₃, _, s, h⟩ := (s.skip hts (.next s.stop)).pass hts (reads_skipIf _) h
      cases h
      exact s
    · cases h

theorem reads_statement (hi : inner.Reads ts) : Reads ts (statement inner) ([·]) := by
  intro c c' n hc h
  unfold statement at h
  rw [here_bind, atWord_bind] at h
  split at h
  · rename_i hw
    exact span_importDeclaration hts (.refl hc) (isEnd_of_isWord hw) h
  · obtain ⟨_, c₁, _, s, h⟩ := (Span.refl hc).pass hts (reads_skipExports hts) h
    exact span_plainStatement hts hi s h

/-- A step over statements reads the statement that it adds, if it adds one. -/
theorem span_statementStep (hi : inner.Reads ts) {inBlock : Bool} {found : List Node}
    {more : Option (List Node)} (s : Span ts c₀ found.reverse c)
    (h : statementStep inner inBlock found c = .ok (more, c')) :
    Span ts c₀ (more.getD found).reverse c' := by
  unfold statementStep at h
  obtain ⟨_, c₁, _, s, h⟩ := s.pass hts (reads_skipWhile hts _) h
  rw [current_bind] at h
  split at h
  · split at h
    · exact absurd h refuse_ne_ok
    · cases h
      exact s
  split at h
  · cases h
    exact s
  · obtain ⟨n, c₂, _, s, h⟩ := s.bind hts (reads_statement hts hi) h
    cases h
    show Span ts c₀ (n :: found).reverse c'
    rw [List.reverse_cons]
    exact s

/-- **Statements**, each after the one before. -/
theorem reads_statements (hi : inner.Reads ts) (inBlock : Bool) :
    Reads ts (statements inner inBlock) id := by
  intro c c' found hc h
  obtain ⟨l, c₁, h, hl⟩ := bind_eq_ok.mp h
  cases hl
  refine repeatWhile_invariant (fun (l : List Node) c₁ => Span ts c l.reverse c₁)
    ?_ ?_ (s := []) (.refl hc) h
  · exact fun l c₁ c₂ s h => span_statementStep hts hi s h
  · exact fun l l' c₁ c₂ s h => span_statementStep hts hi s h

theorem reads_block (hi : inner.Reads ts) : Reads ts (block inner) ([·]) := by
  intro c c' n hc h
  obtain ⟨_, c₁, ho, h⟩ := bind_eq_ok.mp h
  obtain ⟨hp, rfl, rfl⟩ := expect_ok ho
  obtain ⟨found, c₂, _, s, h⟩ :=
    (Span.refl hc.next).bind hts (reads_statements hts hi true) h
  obtain ⟨_, c₃, _, s, h⟩ := s.pass hts (reads_expect _ _) h
  cases h
  obtain ⟨s, hlt⟩ := s.of_next hts hc (isEnd_of_isPunct hp)
  exact s.other hts hlt rfl

/-! ## Nesting and whole scripts -/

/-- **Whatever is nested is read**, however many levels are left. -/
theorem reads_within (levels : Nat) : (within levels).Reads ts := by
  induction levels with
  | zero => exact ⟨fun _ _ _ _ h => (by cases h), fun _ _ _ _ h => (by cases h)⟩
  | succ levels ih => exact ⟨reads_operation hts ih, reads_block hts ih⟩

/-- **A script is read.** -/
theorem reads_script : Reads ts script id := reads_statements hts (reads_within hts _) false

end InOrder

end Parser

/-- **The nodes of a parsed text are placed** among its tokens, those outside of blocks in
a row, and they are numbered. -/
theorem exists_placed_of_parseTree {text : String} {root : Node} (h : parseTree text = .ok root) :
    ∃ ts, tokenize text = .ok ts ∧ ∃ statements stop index,
      root = .mk (.sourceFile statements) ⟨0, byteLength text.toList⟩ index
        ∧ Node.Row 0 statements stop ∧ (∀ n ∈ statements, n.Placed ts)
        ∧ Node.Numbered 0 statements index := by
  unfold parseTree at h
  split at h
  · cases h
  · rename_i ts hts
    have hin := inOrder_tokenize hts
    obtain ⟨_, _, hlast, _⟩ := hin.last
    have hne : ts ≠ [] := by
      rw [hlast]
      exact List.append_ne_nil_of_right_ne_nil _ (List.cons_ne_nil _ _)
    split at h
    · cases h
    · rename_i statements c' hs
      cases h
      have s := Parser.reads_script hin (Cursor.on_ofTokens hne) hs
      have hstart : (Cursor.ofTokens ts).nextIndex = 0 := by
        cases ts <;> rfl
      exact ⟨ts, hts, statements, _, _, rfl, s.row.mono (Nat.zero_le _) (Nat.le_refl _), s.placed,
        hstart ▸ s.numbered⟩

end TypeTest
