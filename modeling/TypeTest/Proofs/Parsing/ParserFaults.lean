import TypeTest.Proofs.Parsing.Placement

/-!
# The parser refuses a token

A parser never makes up a place: it refuses a script at the token it is on, and what it says
is about this token. Where it says that the text ends too early, the token is the end token;
where it names a token, it is the one it is on, which is not the end token.

All of it comes from `refuse`, which looks at the current token alone, and from the limit of
nesting. So it is enough that parsers **keep to** the tokens they are given
(`Parser.KeepsTo`): they leave the cursor on one of them, and refuse one of them if they refuse
anything. There is one lemma for each way of putting parsers together, and after that one for
each parser of the grammar, which follows how it is put together. An attempt forgets what was
refused in it, and needs no more than that the cursor stays where it was.
-/

namespace TypeTest

/-- **A fault is about a token**, at which it stands. -/
inductive SyntaxFault.IsAbout (t : Token) : SyntaxFault → Prop where
  | ending : t.isEnd = true → IsAbout t ⟨.prematureEnd, t.start⟩
  | token {expected : String} : t.isEnd = false →
    IsAbout t ⟨.unexpectedToken t.text expected, t.start⟩
  | nesting : IsAbout t ⟨.tooDeeplyNested, t.start⟩

namespace Parser

variable {α β σ : Type} {ts : List Token} {p : Parser α} {f : α → Parser β}

/-- **A parser keeps to the tokens** `ts`: it leaves a cursor on them, or refuses one of
them. -/
def KeepsTo (ts : List Token) (p : Parser α) : Prop :=
  ∀ c, c.On ts →
    match p c with
    | .ok (_, c') => c'.On ts
    | .error fault => ∃ t ∈ ts, fault.IsAbout t

/-! ## Putting parsers together -/

theorem KeepsTo.of_ok (h : ∀ c, ∃ a c', p c = .ok (a, c') ∧ (c.On ts → c'.On ts)) :
    KeepsTo ts p := by
  intro c hc
  obtain ⟨a, c', hp, hc'⟩ := h c
  rw [hp]
  exact hc' hc

theorem KeepsTo.pure (a : α) : KeepsTo ts (pure a : Parser α) :=
  .of_ok fun c => ⟨a, c, rfl, id⟩

theorem KeepsTo.bind (hp : KeepsTo ts p) (hf : ∀ a, KeepsTo ts (f a)) : KeepsTo ts (p >>= f) := by
  intro c hc
  have hfirst := hp c hc
  cases h : p c with
  | error fault =>
    rw [h] at hfirst
    rw [bind_of_error f h]
    exact hfirst
  | ok r =>
    rw [h] at hfirst
    rw [bind_of_ok f h]
    exact hf r.1 r.2 hfirst

theorem KeepsTo.ite {P : Prop} [Decidable P] {q : Parser α} (hp : KeepsTo ts p)
    (hq : KeepsTo ts q) : KeepsTo ts (if P then p else q) := by
  split
  · exact hp
  · exact hq

/-- A parser that only looks at the cursor. -/
theorem KeepsTo.look (g : Cursor → α) : KeepsTo ts (fun c => .ok (g c, c) : Parser α) :=
  .of_ok fun c => ⟨g c, c, rfl, id⟩

theorem keepsTo_current : KeepsTo ts current := .look _

theorem keepsTo_kindAhead (count : Nat) : KeepsTo ts (kindAhead count) := .look _

theorem keepsTo_here : KeepsTo ts here := .look _

theorem keepsTo_lineBreaks : KeepsTo ts lineBreaks := .look _

theorem keepsTo_atPunct (mark : Char) : KeepsTo ts (atPunct mark) := .look _

theorem keepsTo_atWord (word : String) : KeepsTo ts (atWord word) := .look _

theorem keepsTo_get : KeepsTo ts (get : Parser Cursor) := .look _

theorem keepsTo_atArrowFunction : KeepsTo ts atArrowFunction := .look _

theorem keepsTo_advance : KeepsTo ts advance :=
  .of_ok fun c => ⟨c.current, c.next, rfl, fun hc => hc.next⟩

/-- Storing a node leaves the cursor on its token. -/
theorem keepsTo_store (form : Form Node) (range : TextRange) : KeepsTo ts (store form range) :=
  .of_ok fun c => ⟨_, c.store form range, rfl, id⟩

theorem keepsTo_node (start : Nat) (form : Form Node) : KeepsTo ts (node start form) :=
  fun c hc => keepsTo_store form (c.rangeFrom start) c hc

/-- **What is refused is the current token.** -/
theorem keepsTo_refuse (expected : String) : KeepsTo ts (refuse expected : Parser α) := by
  intro c hc
  unfold refuse
  cases he : c.current.isEnd with
  | true => exact ⟨c.current, hc.current_mem, .ending he⟩
  | false => exact ⟨c.current, hc.current_mem, .token he⟩

/-- Nesting is refused at the current token too. -/
theorem keepsTo_fail_nesting : KeepsTo ts (fail .tooDeeplyNested : Parser α) :=
  fun c hc => ⟨c.current, hc.current_mem, .nesting⟩

/-- **A repetition keeps to the tokens if its step does.** -/
theorem KeepsTo.repeatWhile {step : σ → Parser (Option σ)} (h : ∀ s, KeepsTo ts (step s)) (s : σ) :
    KeepsTo ts (repeatWhile step s) := by
  intro c hc
  fun_induction Parser.repeatWhile step s c with
  | case1 s c fault hs =>
    have hstep := h s c hc
    rwa [hs] at hstep
  | case2 s c c' hs =>
    have hstep := h s c hc
    rwa [hs] at hstep
  | case3 s c s' c' hs _ ih =>
    have hstep := h s c hc
    rw [hs] at hstep
    exact ih hstep
  | case4 s c s' c' hs _ =>
    have hstep := h s c hc
    rwa [hs] at hstep

/-- An attempt that comes to nothing leaves the cursor where it was. -/
theorem KeepsTo.attempt (follow : Token → Bool) (h : KeepsTo ts p) :
    KeepsTo ts (attempt follow p) := by
  intro c hc
  have hrun := h c hc
  unfold Parser.attempt
  cases hp : p c with
  | error fault => exact hc
  | ok r =>
    rw [hp] at hrun
    dsimp only
    by_cases hfollow : follow r.2.current = true
    · rw [if_pos hfollow]
      exact hrun
    · rw [if_neg hfollow]
      exact hc

/-! ## Single tokens and lists -/

theorem keepsTo_accept (mark : Char) : KeepsTo ts (accept mark) :=
  .bind (keepsTo_atPunct mark) fun _ =>
    .ite (.bind keepsTo_advance fun _ => .pure true) (.pure false)

theorem keepsTo_expect (mark : Char) (expected : String) : KeepsTo ts (expect mark expected) :=
  .bind (keepsTo_atPunct mark) fun _ => .ite keepsTo_advance (keepsTo_refuse expected)

theorem keepsTo_name (expected : String) : KeepsTo ts (name expected) :=
  .bind keepsTo_current fun token =>
    .ite (.bind keepsTo_advance fun _ => .pure token.text) (keepsTo_refuse expected)

theorem keepsTo_skipIf (test : Token → Bool) : KeepsTo ts (skipIf test) :=
  .bind keepsTo_current fun _ => .ite (.bind keepsTo_advance fun _ => .pure ()) (.pure ())

theorem keepsTo_skipWhile (test : Cursor → Bool) : KeepsTo ts (skipWhile test) := by
  refine .repeatWhile (fun _ => .of_ok fun c => ?_) ()
  split
  · exact ⟨some (), c.next, rfl, fun hc => hc.next⟩
  · exact ⟨none, c, rfl, id⟩

theorem KeepsTo.commaList (closer : Char) (h : KeepsTo ts p) : KeepsTo ts (commaList closer p) := by
  refine .bind (.repeatWhile (fun l => ?_) _) fun listing => .pure listing.items.reverse
  exact .bind (keepsTo_atPunct closer) fun _ =>
    .ite (.pure none) (.bind h fun _ => .bind (keepsTo_accept ',') fun _ => .pure _)

theorem KeepsTo.angleList (h : KeepsTo ts p) : KeepsTo ts (angleList p) := by
  refine .bind (keepsTo_expect '<' _) fun _ =>
    .bind (.repeatWhile (fun l => ?_) _) fun listing => .pure listing.items.reverse
  exact .ite (.pure none) (.bind h fun _ => .bind (keepsTo_accept '>') fun _ =>
    .ite (.pure _) (.bind (keepsTo_expect ',' _) fun _ => .pure _))

theorem keepsTo_bracketToken (depth : Nat) : KeepsTo ts (bracketToken depth) :=
  .bind keepsTo_current fun _ =>
    .ite (keepsTo_refuse _) (.bind keepsTo_advance fun _ => .pure _)

theorem keepsTo_skipBracketed : KeepsTo ts skipBracketed := by
  refine .bind (keepsTo_bracketToken 0) fun depth =>
    .bind (.repeatWhile (fun depth => ?_) depth) fun _ => .pure ()
  exact .ite (.pure none) (.bind (keepsTo_bracketToken depth) fun _ => .pure _)

/-! ## Types -/

theorem keepsTo_typeStep (ends : Token → Bool) (lineBreaksEnd : Bool) (scan : TypeScan) :
    KeepsTo ts (typeStep ends lineBreaksEnd scan) := by
  refine .of_ok fun c => ?_
  unfold typeStep
  split
  · exact ⟨none, c, rfl, id⟩
  · exact ⟨_, c.next, rfl, fun hc => hc.next⟩

theorem keepsTo_typeUntil (ends : Token → Bool) (lineBreaksEnd : Bool) :
    KeepsTo ts (typeUntil ends lineBreaksEnd) :=
  .bind keepsTo_here fun start =>
    .bind (.repeatWhile (keepsTo_typeStep ends lineBreaksEnd) _) fun _ =>
      .ite (keepsTo_refuse _) (keepsTo_node start _)

theorem keepsTo_typeAfterColon (ends : Token → Bool) (lineBreaksEnd : Bool) :
    KeepsTo ts (typeAfterColon ends lineBreaksEnd) :=
  .bind (keepsTo_accept ':') fun _ =>
    .ite (.bind (keepsTo_typeUntil ends lineBreaksEnd) fun _ => .pure _) (.pure none)

theorem keepsTo_typeParameter : KeepsTo ts typeParameter := by
  refine .bind (keepsTo_name _) fun parameter => .bind ?_ fun _ => .pure parameter
  exact .bind keepsTo_current fun _ =>
    .ite (.pure ()) (.bind (keepsTo_typeUntil _ _) fun _ => .pure ())

theorem keepsTo_typeParameters : KeepsTo ts typeParameters :=
  .bind (keepsTo_atPunct '<') fun _ => .ite (.angleList keepsTo_typeParameter) (.pure [])

theorem keepsTo_typeArguments : KeepsTo ts typeArguments :=
  .attempt _ (.angleList (keepsTo_typeUntil _ _))

/-! ## Functions -/

/-- **The parsers for what is nested** keep to the tokens. -/
structure Inner.KeepsTo (ts : List Token) (inner : Inner) : Prop where
  expression : Parser.KeepsTo ts inner.expression
  block : Parser.KeepsTo ts inner.block

section Inner

variable {inner : Inner} (hi : inner.KeepsTo ts)

include hi

theorem keepsTo_element : KeepsTo ts (element inner) :=
  .bind keepsTo_current fun token =>
    .ite (.bind keepsTo_advance fun _ => .bind hi.expression fun _ => keepsTo_node token.start _)
      hi.expression

omit hi in
theorem keepsTo_parameterName : KeepsTo ts parameterName :=
  .bind keepsTo_current fun _ =>
    .ite (.bind keepsTo_skipBracketed fun _ => .pure "") (keepsTo_name _)

theorem keepsTo_initialValue : KeepsTo ts (initialValue inner) :=
  .bind (keepsTo_accept '=') fun _ =>
    .ite (.bind hi.expression fun _ => .pure _) (.pure none)

theorem keepsTo_parameter : KeepsTo ts (parameter inner) :=
  .bind keepsTo_here fun start =>
    .bind (keepsTo_skipIf _) fun _ =>
      .bind keepsTo_parameterName fun _ =>
        .bind (keepsTo_accept '?') fun _ =>
          .bind (keepsTo_typeAfterColon _ _) fun _ =>
            .bind (keepsTo_initialValue hi) fun _ => keepsTo_node start _

theorem keepsTo_parameters : KeepsTo ts (parameters inner) :=
  .bind (keepsTo_expect '(' _) fun _ =>
    .bind (.commaList ')' (keepsTo_parameter hi)) fun found =>
      .bind (keepsTo_expect ')' _) fun _ => .pure found

theorem keepsTo_functionRest (start : Nat) : KeepsTo ts (functionRest inner start) :=
  .bind (keepsTo_parameters hi) fun _ =>
    .bind (keepsTo_typeAfterColon _ _) fun _ =>
      .bind hi.block fun _ => keepsTo_node start _

theorem keepsTo_functionExpression : KeepsTo ts (functionExpression inner) :=
  .bind keepsTo_here fun start =>
    .bind keepsTo_advance fun _ =>
      .bind (keepsTo_skipIf _) fun _ => keepsTo_functionRest hi start

theorem keepsTo_arrowParameters : KeepsTo ts (arrowParameters inner) :=
  .bind keepsTo_current fun _ =>
    .ite (.bind keepsTo_advance fun _ => .bind (keepsTo_store _ _) fun _ => .pure _)
      (keepsTo_parameters hi)

theorem keepsTo_arrowBody : KeepsTo ts (arrowBody inner) :=
  .bind (keepsTo_atPunct '\x7b') fun _ => .ite hi.block hi.expression

theorem keepsTo_arrowFunction : KeepsTo ts (arrowFunction inner) :=
  .bind keepsTo_here fun start =>
    .bind (keepsTo_arrowParameters hi) fun _ =>
      .bind (keepsTo_typeAfterColon _ _) fun _ =>
        .bind keepsTo_current fun _ =>
          .ite (.bind keepsTo_advance fun _ =>
              .bind (keepsTo_arrowBody hi) fun _ => keepsTo_node start _)
            (keepsTo_refuse _)

/-! ## Literals -/

theorem keepsTo_property : KeepsTo ts (property inner) := by
  refine .bind keepsTo_here fun start => .bind keepsTo_current fun token =>
    .ite (keepsTo_element hi) ?_
  cases propertyName token with
  | none => exact keepsTo_refuse _
  | some key =>
    refine .bind keepsTo_advance fun _ => .bind (keepsTo_accept ':') fun _ => .ite ?_ ?_
    · exact .bind hi.expression fun _ => keepsTo_node start _
    · refine .bind (keepsTo_atPunct '(') fun _ => .ite ?_ (keepsTo_node start _)
      exact .bind keepsTo_here fun own =>
        .bind (keepsTo_functionRest hi own) fun _ => keepsTo_node start _

theorem keepsTo_objectLiteral : KeepsTo ts (objectLiteral inner) :=
  .bind (keepsTo_expect '\x7b' _) fun opening =>
    .bind (.commaList '\x7d' (keepsTo_property hi)) fun _ =>
      .bind (keepsTo_expect '\x7d' _) fun _ => keepsTo_node opening.start _

theorem keepsTo_arrayLiteral : KeepsTo ts (arrayLiteral inner) :=
  .bind keepsTo_here fun start =>
    .bind keepsTo_advance fun _ =>
      .bind (.commaList ']' (keepsTo_element hi)) fun _ =>
        .bind (keepsTo_expect ']' _) fun _ => keepsTo_node start _

theorem keepsTo_parenthesized : KeepsTo ts (parenthesized inner) :=
  .bind keepsTo_here fun start =>
    .bind keepsTo_advance fun _ =>
      .bind hi.expression fun _ =>
        .bind (keepsTo_expect ')' _) fun _ => keepsTo_node start _

/-! ## Primary expressions and what follows them -/

omit hi in
theorem keepsTo_leaf (form : Form Node) : KeepsTo ts (leaf form) :=
  .bind keepsTo_advance fun token => keepsTo_store form token.range

theorem keepsTo_plainPrimary : KeepsTo ts (plainPrimary inner) := by
  refine .bind keepsTo_current fun token => ?_
  split
  · exact .ite (keepsTo_functionExpression hi) (.bind (keepsTo_kindAhead 1) fun _ =>
      .ite (keepsTo_arrowFunction hi) (keepsTo_leaf _))
  · exact keepsTo_leaf _
  · exact keepsTo_leaf _
  · exact keepsTo_leaf _
  · exact .bind keepsTo_atArrowFunction fun _ =>
      .ite (keepsTo_arrowFunction hi) (keepsTo_parenthesized hi)
  · exact keepsTo_arrayLiteral hi
  · exact keepsTo_objectLiteral hi
  · exact keepsTo_refuse _

theorem keepsTo_primary : KeepsTo ts (primary inner) :=
  .bind keepsTo_get fun _ =>
    .ite (.bind keepsTo_advance fun _ => keepsTo_plainPrimary hi) (keepsTo_plainPrimary hi)

theorem keepsTo_arguments : KeepsTo ts (arguments inner) :=
  .bind (keepsTo_expect '(' _) fun _ =>
    .bind (.commaList ')' (keepsTo_element hi)) fun found =>
      .bind (keepsTo_expect ')' _) fun _ => .pure found

omit hi in
theorem keepsTo_memberAccess (start : Nat) (e : Node) : KeepsTo ts (memberAccess start e) :=
  .bind (keepsTo_skipIf _) fun _ =>
    .bind keepsTo_advance fun _ =>
      .bind (keepsTo_name _) fun _ => keepsTo_node start _

theorem keepsTo_indexed (start : Nat) (e : Node) : KeepsTo ts (indexed inner start e) :=
  .bind keepsTo_advance fun _ =>
    .bind hi.expression fun _ =>
      .bind (keepsTo_expect ']' _) fun _ => keepsTo_node start _

theorem keepsTo_called (start : Nat) (e : Node) (types : List Node) :
    KeepsTo ts (called inner start e types) :=
  .bind (keepsTo_arguments hi) fun _ => keepsTo_node start _

theorem keepsTo_postfixStep (start : Nat) (e : Node) :
    KeepsTo ts (postfixStep inner start e) := by
  refine .bind keepsTo_current fun token => .bind (keepsTo_kindAhead 1) fun following =>
    .bind keepsTo_lineBreaks fun broken => ?_
  refine .ite ?member (.ite ?call (.ite ?typedCall (.ite ?index (.ite ?mark
    (.ite ?assertion (.pure none))))))
  case member => exact .bind (keepsTo_memberAccess start e) fun _ => .pure _
  case call => exact .bind (keepsTo_called hi start e []) fun _ => .pure _
  case typedCall =>
    refine .bind keepsTo_typeArguments fun found => ?_
    cases found with
    | none => exact .pure none
    | some types => exact .bind (keepsTo_called hi start e types) fun _ => .pure _
  case index => exact .bind (keepsTo_indexed hi start e) fun _ => .pure _
  case mark => exact .bind keepsTo_advance fun _ => .pure _
  case assertion =>
    exact .bind keepsTo_advance fun _ => .bind (keepsTo_typeUntil _ _) fun _ => .pure _

theorem keepsTo_postfixed : KeepsTo ts (postfixed inner) :=
  .bind keepsTo_here fun start =>
    .bind (keepsTo_primary hi) fun first => .repeatWhile (keepsTo_postfixStep hi start) first

/-! ## Operators -/

theorem keepsTo_operand : KeepsTo ts (operand inner) :=
  .bind (keepsTo_skipWhile _) fun _ => keepsTo_postfixed hi

theorem keepsTo_operatorStep (s : Operands) : KeepsTo ts (operatorStep inner s) := by
  refine .bind keepsTo_current fun token => .bind (keepsTo_kindAhead 1) fun following =>
    .ite ?colon (.ite ?conditional (.bind keepsTo_get fun _ => .ite ?operator (.pure none)))
  case colon =>
    exact .bind keepsTo_advance fun _ => .bind (keepsTo_operand hi) fun _ => .pure _
  case conditional =>
    exact .bind keepsTo_advance fun _ => .bind (keepsTo_operand hi) fun _ => .pure _
  case operator =>
    exact .bind (keepsTo_skipWhile _) fun _ => .bind (keepsTo_operand hi) fun _ => .pure _

theorem keepsTo_operation : KeepsTo ts (operation inner) := by
  refine .bind keepsTo_here fun start => .bind (keepsTo_operand hi) fun first =>
    .bind (.repeatWhile (keepsTo_operatorStep hi) _) fun s => ?_
  split
  · exact .pure _
  · exact keepsTo_node start _

/-! ## Statements -/

omit hi in
theorem keepsTo_importDeclaration (start : Nat) : KeepsTo ts (importDeclaration start) := by
  refine .bind keepsTo_advance fun _ => .bind (.repeatWhile (fun found => ?_) false) fun _ =>
    .bind (keepsTo_accept ';') fun _ => keepsTo_node start _
  exact .ite (.pure none) (.bind keepsTo_current fun _ =>
    .ite (keepsTo_refuse _) (.bind keepsTo_advance fun _ => .pure _))

theorem keepsTo_functionBody (declared : Bool) : KeepsTo ts (functionBody inner declared) :=
  .bind (keepsTo_atPunct '\x7b') fun _ =>
    .ite (.bind hi.block fun _ => .pure _) (.bind (keepsTo_accept ';') fun _ => .pure none)

theorem keepsTo_functionDeclaration (start : Nat) (declared : Bool) :
    KeepsTo ts (functionDeclaration inner start declared) :=
  .bind keepsTo_advance fun _ =>
    .bind (keepsTo_name _) fun _ =>
      .bind keepsTo_typeParameters fun _ =>
        .bind (keepsTo_parameters hi) fun _ =>
          .bind (keepsTo_typeAfterColon _ _) fun _ =>
            .bind (keepsTo_functionBody hi declared) fun _ => keepsTo_node start _

theorem keepsTo_variableDeclaration (start : Nat) :
    KeepsTo ts (variableDeclaration inner start) :=
  .bind keepsTo_advance fun _ =>
    .bind (keepsTo_name _) fun _ =>
      .bind (keepsTo_typeAfterColon _ _) fun _ =>
        .bind (keepsTo_initialValue hi) fun _ =>
          .bind (keepsTo_accept ';') fun _ => keepsTo_node start _

omit hi in
theorem keepsTo_typeAlias (start : Nat) : KeepsTo ts (typeAlias start) :=
  .bind keepsTo_advance fun _ =>
    .bind (keepsTo_name _) fun _ =>
      .bind keepsTo_typeParameters fun _ =>
        .bind (keepsTo_expect '=' _) fun _ =>
          .bind (keepsTo_typeUntil _ _) fun _ =>
            .bind (keepsTo_accept ';') fun _ => keepsTo_node start _

omit hi in
theorem keepsTo_interfaceDeclaration (start : Nat) :
    KeepsTo ts (interfaceDeclaration start) :=
  .bind (keepsTo_skipWhile _) fun _ =>
    .bind (keepsTo_atPunct '\x7b') fun _ =>
      .ite (.bind keepsTo_skipBracketed fun _ => keepsTo_node start _) (keepsTo_refuse _)

theorem keepsTo_returnStatement (start : Nat) : KeepsTo ts (returnStatement inner start) := by
  refine .bind keepsTo_advance fun _ => .bind ?_ fun _ =>
    .bind (keepsTo_accept ';') fun _ => keepsTo_node start _
  exact .bind keepsTo_current fun _ => .bind keepsTo_lineBreaks fun _ =>
    .ite (.pure none) (.bind hi.expression fun _ => .pure _)

theorem keepsTo_ambientDeclaration (start : Nat) : KeepsTo ts (ambientDeclaration inner start) :=
  .bind keepsTo_advance fun _ =>
    .bind keepsTo_current fun _ =>
      .ite (keepsTo_functionDeclaration hi start true)
        (.ite (keepsTo_variableDeclaration hi start) (keepsTo_refuse _))

theorem keepsTo_plainStatement (start : Nat) : KeepsTo ts (plainStatement inner start) := by
  refine .bind keepsTo_current fun _ => .bind (keepsTo_kindAhead 1) fun _ =>
    .bind (keepsTo_kindAhead 2) fun _ => ?_
  refine .ite (keepsTo_ambientDeclaration hi start)
    (.ite (keepsTo_functionDeclaration hi start false)
      (.ite (keepsTo_variableDeclaration hi start)
        (.ite (keepsTo_typeAlias start)
          (.ite (keepsTo_interfaceDeclaration start)
            (.ite (keepsTo_returnStatement hi start) (.ite hi.block ?expression))))))
  case expression =>
    exact .bind hi.expression fun _ => .bind (keepsTo_accept ';') fun _ => keepsTo_node start _

omit hi in
theorem keepsTo_skipExports : KeepsTo ts skipExports := by
  refine .repeatWhile (fun _ => .bind (keepsTo_atWord _) fun _ => .ite ?_ (.pure none)) ()
  exact .bind keepsTo_advance fun _ => .bind (keepsTo_skipIf _) fun _ => .pure _

theorem keepsTo_statement : KeepsTo ts (statement inner) :=
  .bind keepsTo_here fun start =>
    .bind (keepsTo_atWord _) fun _ =>
      .ite (keepsTo_importDeclaration start)
        (.bind keepsTo_skipExports fun _ => keepsTo_plainStatement hi start)

theorem keepsTo_statements (inBlock : Bool) : KeepsTo ts (statements inner inBlock) := by
  refine .bind (.repeatWhile (fun found => ?_) []) fun found => .pure found.reverse
  refine .bind (keepsTo_skipWhile _) fun _ => .bind keepsTo_current fun _ =>
    .ite ?atEnd (.ite ?closed ?statement)
  case atEnd => exact .ite (keepsTo_refuse _) (.pure none)
  case closed => exact .pure none
  case statement => exact .bind (keepsTo_statement hi) fun _ => .pure _

theorem keepsTo_block : KeepsTo ts (block inner) :=
  .bind (keepsTo_expect '\x7b' _) fun opening =>
    .bind (keepsTo_statements hi true) fun _ =>
      .bind (keepsTo_expect '\x7d' _) fun _ => keepsTo_node opening.start _

end Inner

/-! ## Nesting -/

/-- **On every level of nesting** the parsers keep to the tokens. -/
theorem keepsTo_within (levels : Nat) : (within levels).KeepsTo ts := by
  induction levels with
  | zero => exact ⟨keepsTo_fail_nesting, keepsTo_fail_nesting⟩
  | succ levels ih => exact ⟨keepsTo_operation ih, keepsTo_block ih⟩

/-- **A script that is refused is refused at a token**, and the fault is about this token. -/
theorem exists_isAbout_of_script {fault : SyntaxFault} (hts : ts ≠ [])
    (h : script (.ofTokens ts) = .error fault) : ∃ t ∈ ts, fault.IsAbout t := by
  have hscript := keepsTo_statements (keepsTo_within maxNesting) false _ (Cursor.on_ofTokens hts)
  rw [show statements (within maxNesting) false (.ofTokens ts) = .error fault from h] at hscript
  exact hscript

end Parser

end TypeTest
