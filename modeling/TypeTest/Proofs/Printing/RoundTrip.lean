import TypeTest.Proofs.Printing.Continuing
import TypeTest.Script.File

/-!
# Parsing undoes printing

A printed script is parsed to the tree it was printed from, unless it nests too deeply. The
induction is on how the parser **goes on** after an expression (`Parser.GoesOn`), kind by kind:
what is read for each kind by itself is the matter of `Proofs.Printing.Reading`; here the
parser's choice between the kinds is followed, by the first lexeme and, behind a parenthesis,
by what comes after the one that closes it.
-/

namespace TypeTest

namespace Parser

/-- The marks that stand after an expression, whether it is part of a larger one or not. -/
def followers : List Char := ['.', '(', '<'] ++ stops

variable {levels start : Nat} {c : Cursor} {p : Char} {e : Expression} {rest : List Lexeme}

/-! ## Expressions go on -/

/-- **Parsing goes on after an expression** in front of a mark that may follow it. -/
def GoesOn (e : Expression) : Prop :=
  Continues (fun l => ∃ p ∈ followers, (e.isArrow = true → p ∈ stops) ∧ l = .mark p) e.lexemes
    e.nesting e.Shown

/-- Parsing goes on after an expression that is read without the loop. -/
theorem GoesOn.of_plainPrimary (h : ∀ (levels : Nat) (p : Char) (rest : List Lexeme) (c : Cursor),
    p ∈ followers → (e.isArrow = true → p ∈ stops) → c.Faces (e.lexemes ++ .mark p :: rest) →
    Comes (plainPrimary (within levels) c) (e.nesting ≤ levels + 1) e.Shown (.mark p :: rest)) :
    GoesOn e := by
  refine Continues.of_plainPrimary ?_ ?_
  · obtain ⟨ls, hls⟩ := e.exists_lexemes_eq
    exact ⟨_, ls, hls, e.opens_first⟩
  · rintro levels _ rest c ⟨p, hp, harrow, rfl⟩ hc
    exact h levels p rest c hp harrow hc

theorem GoesOn.readable (h : GoesOn e) : Readable e := by
  obtain ⟨ls, hls⟩ := e.exists_lexemes_eq
  refine fun levels =>
    (Continues.readAs h ⟨_, ls, hls, e.opens_first⟩ ?_ e.nesting_pos levels).comes
  exact fun p hp => ⟨p, List.mem_append_right _ hp, fun _ => hp, rfl⟩

/-- What is no bare arrow function stands in front of any mark that may follow. -/
theorem follows_of_isArrow_eq_false (he : e.isArrow = false) (hp : p ∈ followers) :
    ∃ q ∈ followers, (e.isArrow = true → q ∈ stops) ∧ Lexeme.mark p = .mark q :=
  ⟨p, hp, fun harrow => absurd (harrow.symm.trans he) (by decide), rfl⟩

/-! ### Kind by kind -/

/-- What follows an expression is neither an arrow nor a colon. -/
theorem kind_ne_of_mem_followers (hp : p ∈ followers) :
    (Lexeme.mark p).kind ≠ .arrow ∧ (Lexeme.mark p).kind ≠ .punct ':' := by
  refine ⟨TokenKind.noConfusion, Lexeme.kind_mark_ne fun h => ?_⟩
  subst h
  revert hp
  decide

theorem goesOn_name (own : Name) : GoesOn (.name own) := by
  refine .of_plainPrimary fun levels p rest c hp _ hc => ?_
  rw [plainPrimary_name hc, if_neg (kind_ne_of_mem_followers hp).1]
  exact .of_ok .name hc.next.store (Nat.le_add_left 1 levels)

theorem goesOn_string (literal : StringLiteral) : GoesOn (.string literal) := by
  refine .of_plainPrimary fun levels p rest c _ _ hc => ?_
  unfold plainPrimary
  rw [current_bind, hc.kind]
  exact .of_ok .string hc.next.store (Nat.le_add_left 1 levels)

theorem goesOn_number (literal : NumberLiteral) : GoesOn (.number literal) := by
  refine .of_plainPrimary fun levels p rest c _ _ hc => ?_
  unfold plainPrimary
  rw [current_bind, hc.kind, hc.text]
  exact .of_ok .number hc.next.store (Nat.le_add_left 1 levels)

theorem goesOn_parenthesized {inner : Expression} (h : Readable inner) :
    GoesOn (.parenthesized inner) := by
  refine .of_plainPrimary fun levels p rest c hp _ hc => ?_
  obtain ⟨harrow, hcolon⟩ := kind_ne_of_mem_followers hp
  rw [plainPrimary_paren inner.balanced hcolon hc, if_neg harrow, Expression.nesting,
    Nat.add_le_add_iff_right]
  refine (comes_parenthesized (h.readAs levels) hc).imp ?_
  rintro n ⟨m, range, index, rfl, hm⟩
  exact .parenthesized hm

theorem goesOn_array {elements : List Expression} (h : ∀ e ∈ elements, Readable e) :
    GoesOn (.array elements) := by
  refine .of_plainPrimary fun levels p rest c _ _ hc => ?_
  unfold plainPrimary
  rw [current_bind, @Cursor.Faces.kind _ (.mark '[') _ hc, Expression.nesting,
    Nat.add_le_add_iff_right, nestingOf_le]
  rw [Expression.lexemes, lexemesOf_eq_map] at hc
  refine (comes_arrayLiteral (fun e he => (h e he).readAs levels) hc).imp ?_
  rintro n ⟨ns, range, index, rfl, hns⟩
  exact .array hns

theorem goesOn_object {properties : List Property}
    (h : ∀ key value, .assignment key value ∈ properties → Readable value) :
    GoesOn (.object properties) := by
  refine .of_plainPrimary fun levels p rest c _ _ hc => ?_
  unfold plainPrimary
  rw [current_bind, @Cursor.Faces.kind _ (.mark '\x7b') _ hc, Expression.nesting,
    Nat.add_le_add_iff_right, propertyNesting_le]
  rw [Expression.lexemes, propertyLexemes_eq_map] at hc
  have hproperties : ∀ q ∈ properties, ∀ p, p = ',' ∨ p = '\x7d' → ∀ c rest,
      c.Faces (q.lexemes ++ .mark p :: rest) →
      Comes (property (within levels) c) (q.nesting ≤ levels) q.Shown (.mark p :: rest) :=
    fun q hq p hp c rest hc => comes_property (fun key value he => h key value (he ▸ hq)) hp hc
  refine (comes_objectLiteral (fun q _ => q.exists_lexemes_eq) hproperties hc).imp ?_
  rintro n ⟨ns, range, index, rfl, hns⟩
  exact .object hns

theorem goesOn_function {own : Option Word} {parameters : List Parameter}
    {body : List Expression} (h : ∀ e ∈ body, Readable e) (hs : ∀ e ∈ body, e.Stands) :
    GoesOn (.function own parameters body) := by
  refine .of_plainPrimary fun levels p rest c _ _ hc => ?_
  have htext : c.current.text = "function" := @Cursor.Faces.text _ (.word "function") _ hc
  unfold plainPrimary
  rw [current_bind, @Cursor.Faces.kind _ (.word "function") _ hc, htext]
  exact comes_functionExpression h hs hc

theorem goesOn_arrow {head : ArrowHead} {body : Expression} (h : Readable body)
    (hbrace : body.first.kind ≠ .punct '\x7b') : GoesOn (.arrow head body) := by
  refine .of_plainPrimary fun levels p rest c _ harrow hc => ?_
  -- nothing but a mark that ends its body may follow it
  have hstop : p ∈ stops := harrow rfl
  rw [Expression.lexemes, List.append_assoc, List.cons_append] at hc
  rw [plainPrimary_head hc, Expression.nesting, Nat.add_le_add_iff_right]
  have hbody : ∀ c, c.Faces (body.lexemes ++ .mark p :: rest) →
      Comes (arrowBody (within levels) c) (body.nesting ≤ levels) body.Shown (.mark p :: rest) := by
    intro c hc
    obtain ⟨ls, hfirst⟩ := faces_first hc
    unfold arrowBody
    rw [atPunct_bind, hfirst.isPunct_eq_false hbrace, if_neg Bool.false_ne_true]
    exact h levels p rest c hstop hc
  refine (comes_arrowFunction hc hbody).imp ?_
  rintro _ ⟨ns, b, range, index, rfl, hns, hb⟩
  exact .arrow hns hb

theorem goesOn_arrowBlock {head : ArrowHead} {body : List Expression}
    (h : ∀ e ∈ body, Readable e) (hs : ∀ e ∈ body, e.Stands) : GoesOn (.arrowBlock head body) := by
  refine .of_plainPrimary fun levels p rest c _ _ hc => ?_
  rw [Expression.lexemes, lexemesOf_eq_map, List.append_assoc, List.cons_append] at hc
  rw [plainPrimary_head hc]
  show Comes _ (nestingOf body + 1 + 1 ≤ levels + 1) _ _
  rw [Nat.add_le_add_iff_right]
  have hbody : ∀ c, c.Faces (inBrackets '\x7b' '\x7d' (terminated (body.map Expression.lexemes))
        ++ .mark p :: rest) →
      Comes (arrowBody (within levels) c) (nestingOf body + 1 ≤ levels) (BlockShown body)
        (.mark p :: rest) := by
    intro c hc
    have hbrace : c.current.isPunct '\x7b' = true :=
      @Cursor.Faces.isPunct_mark _ _ '\x7b' hc '\x7b'
    unfold arrowBody
    rw [atPunct_bind, hbrace, if_pos rfl]
    exact comes_block h hs hc
  refine (comes_arrowFunction hc hbody).imp ?_
  rintro _ ⟨ns, b, range, index, rfl, hns, hb⟩
  exact .arrowBlock hns hb

theorem goesOn_member {base : Expression} {own : Word} (h : GoesOn base)
    (hbase : base.isArrow = false) : GoesOn (.member base own) := by
  refine (Continues.member h (follows_of_isArrow_eq_false hbase (by decide)) _).imp ?_
  rintro m ⟨n, range, index, rfl, hn⟩
  exact .member hn

theorem goesOn_call {callee : Expression} {types : List TypeArgument}
    {arguments : List Expression} (h : GoesOn callee) (hcallee : callee.isArrow = false)
    (harguments : ∀ e ∈ arguments, Readable e) : GoesOn (.call callee types arguments) := by
  unfold GoesOn
  rw [Expression.lexemes, lexemesOf_eq_map]
  refine (Continues.call h (follows_of_isArrow_eq_false hcallee (by decide))
    (follows_of_isArrow_eq_false hcallee (by decide))
    (fun levels e he => (harguments e he).readAs levels) (fun _ => nestingOf_le) _).imp ?_
  rintro m ⟨n, ⟨ts, ns, range, index, rfl, hts, hns⟩, hn⟩
  exact .call hn hts hns

/-- **Parsing goes on after every printed expression.** -/
theorem goesOn_of_printable {e : Expression} (h : e.Printable) : GoesOn e := by
  induction h with
  | name => exact goesOn_name _
  | string => exact goesOn_string _
  | number => exact goesOn_number _
  | parenthesized _ ih => exact goesOn_parenthesized ih.readable
  | array _ ih => exact goesOn_array fun e he => (ih e he).readable
  | object _ ih => exact goesOn_object fun key value hp => (ih key value hp).readable
  | member _ hbase ih => exact goesOn_member ih hbase
  | call _ hcallee _ ih iharguments =>
    exact goesOn_call ih hcallee fun e he => (iharguments e he).readable
  | function _ hs ih => exact goesOn_function (fun e he => (ih e he).readable) hs
  | arrow _ hbrace ih => exact goesOn_arrow ih.readable hbrace
  | arrowBlock _ hs ih => exact goesOn_arrowBlock (fun e he => (ih e he).readable) hs

end Parser

/-! ## Scripts -/

/-- **A script that is printed as it is meant.** -/
structure PrintableScript where
  statements : List Expression
  printable : ∀ e ∈ statements, e.Printable
  stand : ∀ e ∈ statements, e.Stands

/-- A node shows the statements of a script. -/
inductive ScriptShown : List Expression → Node → Prop where
  | mk {es : List Expression} {ns : List Node} {range : TextRange} {index : Nat} :
    List.Forall₂ Expression.Stated es ns → ScriptShown es (.mk (.sourceFile ns) range index)

namespace PrintableScript

/-- The tokens of the printed script. -/
def lexemes (s : PrintableScript) : List Lexeme :=
  terminated (s.statements.map Expression.lexemes)

/-- **The printed script**: its tokens with single blanks between them, and a semicolon after
each statement. -/
def text (s : PrintableScript) : String := printed s.lexemes

theorem scans (s : PrintableScript) : ∀ l ∈ s.lexemes, l.Scans :=
  (Balanced.terminated (List.forall_mem_map.mpr fun e _ => e.balanced)).scans

/-- The statements of a script are read from its lexemes, up to the end. -/
theorem comes_script (s : PrintableScript) {c : Cursor} (hc : c.Faces s.lexemes) :
    Comes (Parser.script c) (nestingOf s.statements ≤ Parser.maxNesting)
      (List.Forall₂ Expression.Stated s.statements) [] := by
  rw [nestingOf_le]
  refine Parser.comes_statements (fun e he => ?_) s.stand
    (fun found c hc => Parser.statementStep_end hc found) ?_
  · exact (Parser.goesOn_of_printable (s.printable e he)).readable
  · rw [List.append_nil]
    exact hc

/-- **The tree of a printed script** is the tree that was printed, unless the script nests too
deeply. -/
theorem parseTree_text (s : PrintableScript) :
    (nestingOf s.statements ≤ Parser.maxNesting →
      ∃ root, parseTree s.text = .ok root ∧ ScriptShown s.statements root)
    ∧ (¬ nestingOf s.statements ≤ Parser.maxNesting →
      ∃ start, parseTree s.text = .error ⟨.tooDeeplyNested, start⟩) := by
  obtain ⟨ts, htokens, hfaces⟩ := Cursor.exists_faces_printed s.scans
  obtain ⟨hok, herror⟩ := s.comes_script hfaces
  have htext : tokenize s.text = .ok ts := htokens
  unfold parseTree
  rw [htext]
  refine ⟨fun hfits => ?_, fun hfits => ?_⟩
  · obtain ⟨ns, c', hrun, hns, _⟩ := hok hfits
    dsimp only
    rw [hrun]
    exact ⟨_, rfl, .mk hns⟩
  · obtain ⟨start, hrun⟩ := herror hfits
    dsimp only
    rw [hrun]
    exact ⟨start, rfl⟩

/-- **Parsing undoes printing, exactly up to the limit of nesting.** The file of a printed script
shows its statements, in order and with all names, values and texts of types, if and only if no
more expressions and blocks of it are nested in each other than may be; otherwise the script is
refused for that. -/
theorem exists_parse_text_iff (s : PrintableScript) (name : String) :
    ((∃ file, ScriptFile.parse name s.text = .ok file ∧ ScriptShown s.statements file.root)
      ↔ nestingOf s.statements ≤ Parser.maxNesting)
    ∧ (Parser.maxNesting < nestingOf s.statements →
      ∃ start, ScriptFile.parse name s.text
        = .error (.ofFault (some name) s.text ⟨.tooDeeplyNested, start⟩)) := by
  obtain ⟨hok, herror⟩ := s.parseTree_text
  have hrefused : Parser.maxNesting < nestingOf s.statements → ∃ start,
      ScriptFile.parse name s.text
        = .error (.ofFault (some name) s.text ⟨.tooDeeplyNested, start⟩) := by
    intro hlt
    obtain ⟨start, hfault⟩ := herror (Nat.not_le_of_lt hlt)
    exact ⟨start, ScriptFile.parse_of_error hfault⟩
  refine ⟨⟨fun ⟨file, hfile, _⟩ => ?_, fun hfits => ?_⟩, hrefused⟩
  · by_contra hfits
    obtain ⟨start, hfault⟩ := hrefused (Nat.lt_of_not_le hfits)
    cases hfault.symm.trans hfile
  · obtain ⟨root, hroot, hshown⟩ := hok hfits
    exact ⟨_, ScriptFile.parse_of_ok hroot, hshown⟩

/-- The function in a call nests twice in it, itself and with its block. -/
example :
    let it : Name := ⟨⟨"it", ⟨'i', ['t'], rfl, rfl, rfl⟩⟩, by decide⟩
    let only : Word := ⟨"only", ⟨'o', ['n', 'l', 'y'], rfl, rfl, rfl⟩⟩
    let one : NumberLiteral := ⟨"1", ⟨'1', [], rfl, rfl, rfl⟩⟩
    let body : List Expression := [.array [.number one]]
    let e : Expression := .call (.member (.name it) only) [] [.arrowBlock (.list []) body]
    printed (terminated [e.lexemes]) = "it . only ( ( ) => \x7b [ 1 ] ; \x7d ) ;"
      ∧ e.nesting = 5 := by
  decide

end PrintableScript

end TypeTest
