import TypeTest.Proofs.Parsing.Separated
import TypeTest.Proofs.Parsing.TypeScans
import TypeTest.Proofs.Printing.Facing

/-!
# Function declarations, token by token

The head of a function without parameters is read one token at a time, and what it does is fixed
but for its names (`functionDeclaration_eq`): what is left to be read is the type of the result,
then the body. A script with a single statement is that statement, up to the end of the text.
-/

namespace TypeTest

open TypeTest.Parser

namespace Parser

variable {c c₁ : Cursor} {t u v w : Token} {ts : List Token} {inner : Inner} {names : List String}

/-! ## Heads of functions -/

/-- No parameters stand in parentheses that are closed at once. -/
theorem parameters_nil (h : c.current :: c.rest = t :: u :: v :: ts) (ht : t.lexeme = .mark '(')
    (hu : u.lexeme = .mark ')') :
    parameters inner c = .ok ([], c.next.next) := by
  have hopen : c.current.isPunct '(' = true := by
    rw [current_eq h, Token.isPunct_of_lexeme ht]
    rfl
  have hclose : c.next.current.isPunct ')' = true := by
    rw [current_eq (next_eq h (List.cons_ne_nil _ _)), Token.isPunct_of_lexeme hu]
    rfl
  have hnone : commaStep ')' (parameter inner) ⟨[], true⟩ c.next = .ok (none, c.next) := by
    unfold commaStep
    rw [atPunct_bind, hclose]
    rfl
  have hlist : commaList ')' (parameter inner) c.next = .ok ([], c.next) := by
    unfold commaList
    rw [bind_of_ok _ (repeatWhile_of_none hnone)]
    rfl
  unfold parameters
  rw [bind_of_ok _ ((expect_run _ _ _).trans (if_pos hopen)), bind_of_ok _ hlist,
    bind_of_ok _ ((expect_run _ _ _).trans (if_pos hclose))]
  rfl

/-- There are no type parameters in front of a parenthesis. -/
theorem typeParameters_nil (ht : c.current.lexeme = .mark '(') :
    typeParameters c = .ok ([], c) := by
  unfold typeParameters
  rw [atPunct_bind, Token.isPunct_of_lexeme ht]
  rfl

/-- **The head of a function without parameters is read** up to the colon behind it. -/
theorem functionDeclaration_eq (hname : c.next.current.isIdentifier = true)
    (hnames : typeParameters c.next.next = .ok (names, c₁))
    (hc₁ : c₁.current :: c₁.rest = t :: u :: v :: w :: ts) (ht : t.lexeme = .mark '(')
    (hu : u.lexeme = .mark ')') (hv : v.lexeme = .mark ':') (start : Nat) (declared : Bool) :
    functionDeclaration inner start declared c
      = (typeUntil (·.isPunctOf (if declared then [';'] else [';', '\x7b'])) true >>= fun type =>
          functionBody inner declared >>= fun body =>
            node start (.functionDeclaration c.next.current.text names [] (some type) body))
          c₁.next.next.next := by
  have hcolon : c₁.next.next.current.isPunct ':' = true := by
    rw [current_eq (next_eq (next_eq hc₁ (List.cons_ne_nil _ _)) (List.cons_ne_nil _ _)),
      Token.isPunct_of_lexeme hv]
    rfl
  unfold functionDeclaration
  rw [advance_bind, bind_of_ok _ ((name_run _ _).trans (if_pos hname)), bind_of_ok _ hnames,
    bind_of_ok _ (parameters_nil hc₁ ht hu)]
  unfold typeAfterColon
  show ((accept ':' >>= _) >>= _ : Parser Node) _ = _
  cases htype : typeUntil (·.isPunctOf (if declared then [';'] else [';', '\x7b'])) true
      c₁.next.next.next with
  | error fault =>
    rw [bind_of_error _ htype]
    refine bind_of_error _ ?_
    rw [bind_of_ok _ ((accept_run _ _).trans (if_pos hcolon)), if_pos rfl]
    exact bind_of_error _ htype
  | ok x =>
    obtain ⟨type, c₂⟩ := x
    rw [bind_of_ok _ htype]
    refine bind_of_ok _ ?_
    rw [bind_of_ok _ ((accept_run _ _).trans (if_pos hcolon)), if_pos rfl]
    exact bind_of_ok _ htype

/-! ## Bodies of functions -/

/-- A declared function has no body in front of a semicolon. -/
theorem functionBody_of_semicolon (h : c.current.isPunct ';' = true) :
    functionBody inner true c = .ok (none, c.next) := by
  have hbrace : c.current.isPunct '\x7b' = false := by
    have hkind : c.current.kind = .punct ';' := eq_of_beq h
    unfold Token.isPunct
    rw [hkind]
    rfl
  unfold functionBody
  rw [atPunct_bind, hbrace]
  show ((accept ';' >>= fun _ => pure none) : Parser _) c = _
  rw [bind_of_ok _ ((accept_run _ _).trans (if_pos h))]
  rfl

/-- **An empty block is the body of a function** that is not only declared. -/
theorem exists_functionBody_of_braces (levels : Nat) (h : c.current :: c.rest = t :: u :: v :: ts)
    (ht : t.lexeme = .mark '\x7b') (hu : u.lexeme = .mark '\x7d') :
    ∃ body c', functionBody (within (levels + 1)) false c = .ok (some body, c')
      ∧ c'.current :: c'.rest = v :: ts := by
  have hnext := next_eq h (List.cons_ne_nil _ _)
  have hopen : c.current.isPunct '\x7b' = true := by
    rw [current_eq h, Token.isPunct_of_lexeme ht]
    rfl
  have hmark : ∀ p, c.next.current.isPunct p = ('\x7d' == p) := by
    rw [current_eq hnext]
    exact Token.isPunct_of_lexeme hu
  have hnotEnd : c.next.current.isEnd = false := by
    rw [current_eq hnext]
    exact beq_false_of_ne ((congrArg Lexeme.kind hu).trans_ne TokenKind.noConfusion)
  have hnone : Parser.statements (within levels) true c.next = .ok ([], c.next) := by
    have hstep : statementStep (within levels) true [] c.next = .ok (none, c.next) := by
      unfold statementStep
      rw [bind_of_ok _ (skipWhile_of_notPunct (hmark ';')), current_bind, hnotEnd, hmark]
      rfl
    unfold Parser.statements
    rw [bind_of_ok _ (repeatWhile_of_none hstep)]
    rfl
  have hblock : block (within levels) c
      = .ok (c.next.next.newNode (.block []) (c.next.next.rangeFrom c.current.start),
          c.next.next.store (.block []) (c.next.next.rangeFrom c.current.start)) := by
    unfold block
    rw [bind_of_ok _ ((expect_run _ _ _).trans (if_pos hopen)), bind_of_ok _ hnone,
      bind_of_ok _ ((expect_run _ _ _).trans (if_pos (hmark '\x7d')))]
    rfl
  have hbody : functionBody (within (levels + 1)) false c
      = (block (within levels) >>= fun n => pure (some n)) c := by
    unfold functionBody
    rw [atPunct_bind, hopen]
    rfl
  exact ⟨_, _, hbody.trans (bind_of_ok _ hblock), next_eq hnext (List.cons_ne_nil _ _)⟩

/-! ## Statements that declare functions -/

/-- **A declared function is read from its second word on.** -/
theorem statement_of_declare (h : c.current :: c.rest = t :: u :: ts)
    (ht : t.lexeme = .word "declare") (hu : u.lexeme = .word "function") :
    statement inner c = functionDeclaration inner c.current.start true c.next := by
  have hword : ∀ word, c.current.isWord word = ("declare" == word) := by
    rw [current_eq h]
    exact Token.isWord_of_lexeme ht
  have hfunction : c.next.current.isWord "function" = true := by
    rw [current_eq (next_eq h (List.cons_ne_nil _ _)), Token.isWord_of_lexeme hu]
    rfl
  have hexports : skipExports c = .ok ((), c) := by
    refine repeatWhile_of_none ?_
    rw [atWord_bind, hword]
    rfl
  have hambient : ambientDeclaration inner c.current.start c
      = functionDeclaration inner c.current.start true c.next := by
    unfold ambientDeclaration
    rw [advance_bind, current_bind, if_pos hfunction]
  have hplain : plainStatement inner c.current.start c
      = ambientDeclaration inner c.current.start c := by
    unfold plainStatement
    rw [current_bind, kindAhead_bind, kindAhead_bind, hword]
    rfl
  unfold statement
  rw [here_bind, atWord_bind, hword]
  show ((skipExports >>= fun _ => plainStatement inner c.current.start) : Parser _) c = _
  rw [bind_of_ok _ hexports, hplain, hambient]

/-- **A function is read from its word on** if its name follows. -/
theorem statement_of_function (h : c.current :: c.rest = t :: u :: ts)
    (ht : t.lexeme = .word "function") (hu : u.kind = .identifier) :
    statement inner c = functionDeclaration inner c.current.start false c := by
  have hword : ∀ word, c.current.isWord word = ("function" == word) := by
    rw [current_eq h]
    exact Token.isWord_of_lexeme ht
  have hname : (c.kindAhead 1 == .identifier) = true := by
    unfold Cursor.kindAhead
    rw [h]
    exact beq_of_eq hu
  have hexports : skipExports c = .ok ((), c) := by
    refine repeatWhile_of_none ?_
    rw [atWord_bind, hword]
    rfl
  have hplain : plainStatement inner c.current.start c
      = functionDeclaration inner c.current.start false c := by
    unfold plainStatement
    rw [current_bind, kindAhead_bind, kindAhead_bind, hword, hword, hname]
    rfl
  unfold statement
  rw [here_bind, atWord_bind, hword]
  show ((skipExports >>= fun _ => plainStatement inner c.current.start) : Parser _) c = _
  rw [bind_of_ok _ hexports, hplain]

end Parser

/-! ## Scripts of one statement -/

namespace ScriptFile

variable {name text : String} {file : ScriptFile} {t e : Token} {ts : List Token} {d : Node}
  {c : Cursor}

/-- The only statement of a script is read off its tokens. -/
theorem exists_statement_of_parse (ht : tokenize text = .ok (t :: ts))
    (hs : t.isPunct ';' = false) (he : t.isEnd = false) (h : parse name text = .ok file)
    (hd : file.statements = [d]) :
    ∃ c, statement (within maxNesting) (.ofTokens (t :: ts)) = .ok (d, c) := by
  obtain ⟨ts', stop, hts, hscript⟩ := exists_script_of_parse h
  cases ht.symm.trans hts
  rw [hd] at hscript
  have hrun := script_eq_ok.mp hscript
  have hstep := @statementStep_of_statement (within maxNesting) [] (.ofTokens (t :: ts)) hs he
  cases hstatement : statement (within maxNesting) (.ofTokens (t :: ts)) with
  | error fault =>
    rw [hstatement] at hstep
    cases hrun.symm.trans (repeatWhile_of_error hstep)
  | ok x =>
    obtain ⟨n, c⟩ := x
    rw [hstatement] at hstep
    by_cases hlt : c.remaining < (Cursor.ofTokens (t :: ts)).remaining
    · rw [repeatWhile_of_lt hstep hlt, ← List.nil_append [n],
        repeatWhile_statementStep_append] at hrun
      obtain ⟨⟨found, c'⟩, _, hfound⟩ := exists_of_map_eq_ok hrun
      have hlast : found ++ [n] = [] ++ [d] := (Prod.mk.inj hfound).1
      cases (List.append_inj' hlast rfl).2
      exact ⟨c, rfl⟩
    · cases hrun.symm.trans (repeatWhile_of_not_lt hstep hlt)
      exact ⟨c, rfl⟩

/-- A statement up to the end of a text is a script. -/
theorem exists_parse_of_statement (ht : tokenize text = .ok (t :: ts))
    (hs : t.isPunct ';' = false) (he : t.isEnd = false)
    (h : statement (within maxNesting) (.ofTokens (t :: ts)) = .ok (d, c))
    (hc : c.current :: c.rest = [e]) (hend : e.isEnd = true) (hne : ts ≠ []) (name : String) :
    ∃ file, parse name text = .ok file ∧ file.statements = [d] := by
  obtain ⟨rfl, hrest⟩ := List.cons.inj hc
  have hstep := @statementStep_of_statement (within maxNesting) [] (.ofTokens (t :: ts)) hs he
  rw [h] at hstep
  have hlt : c.remaining < (Cursor.ofTokens (t :: ts)).remaining := by
    show c.rest.length < ts.length
    rw [hrest]
    exact List.length_pos_iff.mpr hne
  have hscript : script (.ofTokens (t :: ts)) = .ok ([d], c) := script_eq_ok.mpr
    ((repeatWhile_of_lt hstep hlt).trans (repeatWhile_of_none (statementStep_of_isEnd hend)))
  exact exists_parse_of_script ht hscript name

end ScriptFile

end TypeTest
