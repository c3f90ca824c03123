import TypeTest.Proofs.Failure.Script
import TypeTest.Proofs.Parsing.Declarations

/-!
# The script with a failing test is parsed

The declaration is followed token by token: the type of its result is the failing type of
the message, character by character, for no blank stands within it. The test is a printed
script but for the blanks, and is read as that is.
-/

namespace TypeTest

open TypeTest.Parser

/-! ## The declaration -/

namespace Parser

variable {c : Cursor} {t u v : Token} {ts : List Token} {inner : Inner}

/-- **A name is read as a type parameter** with the comma or the bracket after it. -/
theorem angleStep_typeParameter {w : Word} {p : Char} (hp : p = ',' ∨ p = '>')
    (h : c.current :: c.rest = t :: u :: ts) (ht : t.lexeme = w.lexeme) (hu : u.lexeme = .mark p)
    (found : List String) :
    angleStep typeParameter ⟨found, true⟩ c
      = .ok (some ⟨w.text :: found, p == ','⟩, c.next.next) := by
  have hnext := next_eq h (List.cons_ne_nil _ _)
  have hname : c.current.isIdentifier = true := by
    rw [current_eq h]
    exact beq_of_eq (congrArg Lexeme.kind ht)
  have htext : c.current.text = w.text := by
    rw [current_eq h]
    exact congrArg Lexeme.text ht
  have hends : c.next.current.isPunctOf [',', '>'] = true := by
    have hkind : u.kind = .punct p := congrArg Lexeme.kind hu
    unfold Token.isPunctOf
    rw [current_eq hnext, hkind]
    rcases hp with rfl | rfl <;> decide
  have hskip : skipConstraint c.next = .ok ((), c.next) := by
    unfold skipConstraint
    rw [current_bind, if_pos hends]
    rfl
  have hrun : typeParameter c = .ok (w.text, c.next) := by
    unfold typeParameter
    rw [bind_of_ok _ ((name_run _ c).trans (if_pos hname)), bind_of_ok _ hskip, htext]
    rfl
  have hmark : ∀ q, c.next.current.isPunct q = (p == q) := by
    rw [current_eq hnext]
    exact Token.isPunct_of_lexeme hu
  unfold angleStep
  show ((typeParameter >>= fun x => accept '>' >>= fun closed => _) : Parser _) c = _
  rw [bind_of_ok _ hrun]
  rcases hp with rfl | rfl
  · rw [bind_of_ok _ ((accept_run _ _).trans (by rw [hmark]; rfl))]
    show ((expect ',' _ >>= fun _ => _) : Parser _) c.next = _
    rw [bind_of_ok _ ((expect_run _ _ _).trans (by rw [hmark]; rfl))]
    rfl
  · rw [bind_of_ok _ ((accept_run _ _).trans (by rw [hmark]; rfl))]
    rfl

/-- **Names with commas between them are read as type parameters**, up to the bracket that closes
them. -/
theorem exists_angleSteps (w : Word) (ws : List Word) (found : List String) (c : Cursor)
    (us : List Token) (h : c.current :: c.rest = us ++ t :: ts)
    (hus : us.map Token.lexeme = commas ((w :: ws).map fun w => [w.lexeme]) ++ [.mark '>']) :
    ∃ c', repeatWhile (angleStep typeParameter) ⟨found, true⟩ c
        = .ok (⟨((w :: ws).map Word.text).reverse ++ found, false⟩, c')
      ∧ c'.current :: c'.rest = t :: ts := by
  induction ws generalizing w found c us with
  | nil =>
    obtain ⟨own, us, rfl, hown, hus⟩ := List.map_eq_cons_iff.mp hus
    obtain ⟨close, us, rfl, hclose, hus⟩ := List.map_eq_cons_iff.mp hus
    obtain rfl := List.map_eq_nil_iff.mp hus
    have hnext := next_eq h (append_cons_ne_nil [close])
    have hlt := Nat.lt_trans (remaining_next_lt hnext (append_cons_ne_nil []))
      (remaining_next_lt h (append_cons_ne_nil [close]))
    refine ⟨c.next.next, ?_, next_eq hnext (append_cons_ne_nil [])⟩
    rw [repeatWhile_of_lt (angleStep_typeParameter (.inr rfl) h hown hclose found) hlt]
    exact repeatWhile_of_none rfl
  | cons v ws ih =>
    obtain ⟨own, us, rfl, hown, hus⟩ := List.map_eq_cons_iff.mp hus
    obtain ⟨comma, us, rfl, hcomma, hus⟩ := List.map_eq_cons_iff.mp hus
    have hnext := next_eq h (append_cons_ne_nil (comma :: us))
    have hlt := Nat.lt_trans (remaining_next_lt hnext (append_cons_ne_nil us))
      (remaining_next_lt h (append_cons_ne_nil (comma :: us)))
    have hnames : ((w :: v :: ws).map Word.text).reverse ++ found
        = ((v :: ws).map Word.text).reverse ++ w.text :: found := by
      rw [List.map_cons, List.reverse_cons, List.append_assoc]
      rfl
    obtain ⟨c', hrest, hc'⟩ := ih v (w.text :: found) c.next.next us
      (next_eq hnext (append_cons_ne_nil us)) hus
    refine ⟨c', ?_, hc'⟩
    rw [repeatWhile_of_lt (angleStep_typeParameter (.inl rfl) h hown hcomma found) hlt,
      beq_self_eq_true, hrest, hnames]

end Parser

/-- **Type parameters are read** in front of the parenthesis of the function. -/
theorem FailingScript.exists_typeParameters (s : FailingScript) {c : Cursor} {us ts : List Token}
    {t : Token} (h : c.current :: c.rest = us ++ t :: ts) (ht : t.lexeme = .mark '(')
    (hus : us.map Token.piece = s.parameterPieces) :
    ∃ c', typeParameters c = .ok (s.parameters.map Word.text, c')
      ∧ c'.current :: c'.rest = t :: ts := by
  have hlexemes : us.map Token.lexeme = s.parameterPieces.map Piece.lexeme := by
    rw [← hus, List.map_map]
    rfl
  unfold typeParameters
  rw [atPunct_bind]
  cases hs : s.parameters with
  | nil =>
    rw [parameterPieces, hs] at hus
    obtain rfl := List.map_eq_nil_iff.mp hus
    refine ⟨c, ?_, h⟩
    rw [current_eq h, Token.isPunct_of_lexeme ht]
    rfl
  | cons w ws =>
    rw [parameterPieces, hs, List.map_cons, angledPieces, List.map_cons, List.map_append,
      map_lexeme_listed] at hlexemes
    obtain ⟨angle, us, rfl, hangle, hus⟩ := List.map_eq_cons_iff.mp hlexemes
    have hopen : ∀ q, c.current.isPunct q = ('<' == q) := by
      rw [current_eq h]
      exact Token.isPunct_of_lexeme hangle
    obtain ⟨c', hrun, hc'⟩ := exists_angleSteps w ws [] c.next us
      (next_eq h (append_cons_ne_nil us)) hus
    refine ⟨c', ?_, hc'⟩
    rw [hopen, if_pos (beq_self_eq_true _)]
    unfold angleList
    rw [bind_of_ok _ ((expect_run _ _ _).trans (by rw [hopen]; rfl)), bind_of_ok _ hrun]
    show Except.ok ((_ ++ []).reverse, c') = _
    rw [List.append_nil, List.reverse_reverse]

/-- The tokens of the failing type are passed as a type, close their brackets and spell it. -/
theorem QuotedMessage.typePasses_of_pieces (m : QuotedMessage) {us : List Token}
    (hus : us.map Token.piece = m.typePieces) :
    typePasses (·.isPunctOf [';']) 0 us = true ∧ us.foldl typeDepth 0 = 0
      ∧ spelling us = m.failingType := by
  obtain ⟨⟨_, _, _, _⟩, us, rfl, hname, hus⟩ := List.map_eq_cons_iff.mp hus
  obtain ⟨⟨_, _, _, _⟩, us, rfl, hangle, hus⟩ := List.map_eq_cons_iff.mp hus
  obtain ⟨⟨_, _, _, _⟩, us, rfl, hliteral, hus⟩ := List.map_eq_cons_iff.mp hus
  obtain ⟨⟨_, _, _, _⟩, us, rfl, hclose, hus⟩ := List.map_eq_cons_iff.mp hus
  obtain rfl := List.map_eq_nil_iff.mp hus
  cases hname
  cases hangle
  cases hliteral
  cases hclose
  refine ⟨?_, rfl, ?_⟩
  · simp [typePasses, typeDepth, Token.isEnd, Token.isPunctOf, Token.breaksLine, openers, closers]
  · have hopen : "RTT_FAIL" ++ "" ++ (Lexeme.mark '<').text = "RTT_FAIL<" := by decide
    have hclose : (Lexeme.mark '>').text = ">" := by decide
    show "RTT_FAIL" ++ "" ++ (Lexeme.mark '<').text ++ "" ++ m.literal ++ ""
      ++ (Lexeme.mark '>').text = _
    rw [hopen, hclose, String.append_empty, String.append_empty]
    rfl

/-- **The failing type is read character by character**, up to the semicolon. -/
theorem QuotedMessage.exists_typeUntil (m : QuotedMessage) {c : Cursor} {us ts : List Token}
    {t : Token} (h : c.current :: c.rest = us ++ t :: ts) (ht : t.lexeme = .mark ';')
    (hus : us.map Token.piece = m.typePieces) :
    ∃ n c', typeUntil (·.isPunctOf [';']) true c = .ok (n, c')
      ∧ n.form = .typeText m.failingType ∧ c'.current :: c'.rest = t :: ts := by
  obtain ⟨hpasses, hdepth, hspelling⟩ := m.typePasses_of_pieces hus
  have hne : us ≠ [] := by
    rintro rfl
    cases hus
  have hends : t.isPunctOf [';'] = true := by
    rw [← isPunct_eq_isPunctOf, Token.isPunct_of_lexeme ht]
    rfl
  obtain ⟨c', hnode, hc'⟩ := exists_typeUntil_of_passes true h hne hpasses
    (.inr ⟨hdepth, by rw [hends, Bool.true_or]⟩)
  exact ⟨_, _, hnode, congrArg _ hspelling, hc'⟩

/-- **The declaration is read**: a function of its name, with its type parameters, that returns
the failing type of the message. -/
theorem FailingScript.exists_declaration (s : FailingScript) {c : Cursor} {us ts : List Token}
    {t : Token} (h : c.current :: c.rest = us ++ t :: ts)
    (hus : us.map Token.piece = s.declarationPieces) (inner : Inner) :
    ∃ d type c', statement inner c = .ok (d, c')
      ∧ d.form = .functionDeclaration "fails" (s.parameters.map Word.text) [] (some type) none
      ∧ type.form = .typeText s.failingType ∧ c'.current :: c'.rest = t :: ts := by
  have hlexeme : ∀ {t : Token} {p : Piece}, t.piece = p → t.lexeme = p.lexeme :=
    fun h => congrArg Piece.lexeme h
  -- the tokens of the declaration, in five groups
  obtain ⟨us₀, rest₁, rfl, h₀, hrest⟩ := List.map_eq_append_iff.mp hus
  obtain ⟨us₁, rest₂, rfl, h₁, hrest⟩ := List.map_eq_append_iff.mp hrest
  obtain ⟨us₂, rest₃, rfl, h₂, hrest⟩ := List.map_eq_append_iff.mp hrest
  obtain ⟨us₃, us₄, rfl, h₃, h₄⟩ := List.map_eq_append_iff.mp hrest
  obtain ⟨declare, _, rfl, hdeclare, h₀⟩ := List.map_eq_cons_iff.mp h₀
  obtain ⟨function, _, rfl, hfunction, h₀⟩ := List.map_eq_cons_iff.mp h₀
  obtain ⟨own, _, rfl, hown, h₀⟩ := List.map_eq_cons_iff.mp h₀
  obtain rfl := List.map_eq_nil_iff.mp h₀
  obtain ⟨opening, _, rfl, hopening, h₂⟩ := List.map_eq_cons_iff.mp h₂
  obtain ⟨closing, _, rfl, hclosing, h₂⟩ := List.map_eq_cons_iff.mp h₂
  obtain ⟨colon, _, rfl, hcolon, h₂⟩ := List.map_eq_cons_iff.mp h₂
  obtain rfl := List.map_eq_nil_iff.mp h₂
  obtain ⟨semicolon, _, rfl, hsemicolon, h₄⟩ := List.map_eq_cons_iff.mp h₄
  obtain rfl := List.map_eq_nil_iff.mp h₄
  have hc : c.current :: c.rest = declare :: function :: own :: (us₁ ++ opening :: closing
      :: colon :: (us₃ ++ semicolon :: t :: ts)) := by
    rw [h]
    simp
  -- the cursor moves from the name over the type parameters to the type
  have hc₁ := next_eq hc (List.cons_ne_nil _ _)
  have hc₂ := next_eq hc₁ (List.cons_ne_nil _ _)
  have hc₃ := next_eq hc₂ (by simp)
  obtain ⟨c₄, hparameters, hc₄⟩ := s.exists_typeParameters hc₃ (hlexeme hopening) h₁
  have hc₅ := next_eq hc₄ (List.cons_ne_nil _ _)
  have hc₆ := next_eq hc₅ (List.cons_ne_nil _ _)
  have hc₇ := next_eq hc₆ (by simp)
  obtain ⟨type, c₈, htype, hform, hc₈⟩ := s.exists_typeUntil hc₇ (hlexeme hsemicolon) h₃
  have hname : c.next.next.current.isIdentifier = true := by
    rw [current_eq hc₂]
    exact beq_of_eq (congrArg Lexeme.kind (hlexeme hown))
  have htext : c.next.next.current.text = "fails" := by
    rw [current_eq hc₂]
    exact congrArg Lexeme.text (hlexeme hown)
  have hend : c₈.current.isPunct ';' = true := by
    rw [current_eq hc₈, Token.isPunct_of_lexeme (hlexeme hsemicolon)]
    rfl
  have hdeclaration : functionDeclaration inner c.current.start true c.next
      = node c.current.start (.functionDeclaration "fails" (s.parameters.map Word.text) []
          (some type) none) c₈.next := by
    obtain ⟨w, ws, hw⟩ : ∃ w ws, us₃ ++ semicolon :: t :: ts = w :: ws :=
      List.exists_cons_of_ne_nil (append_cons_ne_nil us₃)
    rw [functionDeclaration_eq hname hparameters (hw ▸ hc₄) (hlexeme hopening) (hlexeme hclosing)
        (hlexeme hcolon), if_pos rfl, bind_of_ok _ htype,
      bind_of_ok _ (functionBody_of_semicolon hend), htext]
  have hstatement : statement inner c = functionDeclaration inner c.current.start true c.next :=
    statement_of_declare hc (hlexeme hdeclare) (hlexeme hfunction)
  exact ⟨_, type, _, hstatement.trans hdeclaration, rfl, hform, next_eq hc₈ (List.cons_ne_nil _ _)⟩

/-! ## The test -/

/-- A call that introduces a test or a group, as an expression. -/
def introduction (own : Name) (description : StringLiteral) (callback : Expression) :
    Expression :=
  .call (.name own) [] [.string description, callback]

section Introduction

variable (own : Name) (description : StringLiteral) {callback : Expression}

theorem printable_introduction (h : callback.Printable) :
    (introduction own description callback).Printable :=
  .call .name rfl (List.forall_mem_cons.mpr ⟨.string, List.forall_mem_singleton.mpr h⟩)

theorem stands_introduction : (introduction own description callback).Stands :=
  have hfree : own.text ≠ "function" := fun h => own.free (h ▸ by decide)
  ⟨TokenKind.noConfusion, fun h => hfree (congrArg Lexeme.text h)⟩

theorem lexemes_introduction (callback : Expression) :
    (introduction own description callback).lexemes
      = [own.lexeme, .mark '(', description.lexeme, .mark ',']
        ++ (callback.lexemes ++ [.mark ')']) :=
  rfl

end Introduction

namespace FailingScript

variable (s : FailingScript)

/-- The call of the function that fails. -/
def call : Expression := .call (.name ⟨⟨"fails", by decide +kernel⟩, by decide⟩) s.arguments []

/-- The test with the call in it. -/
def testCall : Expression :=
  introduction ⟨⟨"testType", by decide +kernel⟩, by decide⟩ ⟨"t", "\"t\"", by decide +kernel⟩
    (.arrow (.list []) s.call)

/-- The group with the test in it. -/
def groupCall : Expression :=
  introduction ⟨⟨"describeType", by decide +kernel⟩, by decide⟩ ⟨"g", "\"g\"", by decide +kernel⟩
    (.arrowBlock (.list []) [s.testCall])

theorem printable_groupCall : s.groupCall.Printable := by
  have hcall : s.call.Printable := .call .name rfl nofun
  have htest : s.testCall.Printable :=
    printable_introduction _ _ (.arrow hcall TokenKind.noConfusion)
  exact printable_introduction _ _ (.arrowBlock (List.forall_mem_singleton.mpr htest)
    (List.forall_mem_singleton.mpr (stands_introduction _ _)))

/-- **The test as a script that is printed.** -/
def testScript : PrintableScript where
  statements := [s.groupCall]
  printable := List.forall_mem_singleton.mpr s.printable_groupCall
  stand := List.forall_mem_singleton.mpr (stands_introduction _ _)

theorem map_lexeme_testPieces : s.testPieces.map Piece.lexeme = s.testScript.lexemes := by
  have hcall : s.call.lexemes
      = .word "fails" :: (typeArgumentLexemes s.arguments ++ [.mark '(', .mark ')']) := rfl
  have htest : s.testCall.lexemes = _ := lexemes_introduction _ _ _
  have hgroup : s.groupCall.lexemes = _ := lexemes_introduction _ _ _
  have hscript : s.testScript.lexemes = s.groupCall.lexemes ++ [.mark ';'] := rfl
  have harrow : (Expression.arrow (.list []) s.call).lexemes
      = [.mark '(', .mark ')', .arrow] ++ s.call.lexemes := rfl
  have hblock : (Expression.arrowBlock (.list []) [s.testCall]).lexemes
      = [.mark '(', .mark ')', .arrow, .mark '\x7b'] ++ ((s.testCall.lexemes ++ [.mark ';'])
        ++ [.mark '\x7d']) := rfl
  rw [testPieces, List.map_append, List.map_append, map_lexeme_angledPieces, hscript, hgroup,
    hblock, htest, harrow, hcall]
  simp only [List.append_assoc, List.cons_append, List.nil_append]
  rfl

/-- No line breaks in the test after its first token. -/
theorem unbroken_testPieces : ∀ p ∈ s.testPieces.tail, p.Unbroken := by
  show ∀ p ∈ testingPieces.tail ++ (_ ++ _), p.Unbroken
  simp only [List.forall_mem_append]
  exact ⟨by decide +kernel, unbroken_angledPieces, by decide +kernel⟩

/-- **The test is read as a script of its own**: one statement, like a node that shows the
group. -/
theorem exists_script_of_testPieces {c : Cursor} {vs : List Token} (hc : c.current :: c.rest = vs)
    (hvs : vs.map Token.piece = s.testPieces ++ [⟨"", .ending⟩]) :
    ∃ m n stop, script c = .ok ([n], stop) ∧ s.groupCall.Stated m
      ∧ Comparison.relaid.Like m n := by
  subst hc
  have hlexemes : (c.current :: c.rest).map Token.lexeme = s.testScript.lexemes ++ [.ending] := by
    have := congrArg (List.map Piece.lexeme) hvs
    rw [List.map_append, s.map_lexeme_testPieces, List.map_map] at this
    exact this
  have hunbroken : ∀ t ∈ c.rest, t.breaksLine = false := by
    have htail : c.rest.map Token.piece = s.testPieces.tail ++ [⟨"", .ending⟩] :=
      (List.cons.inj hvs).2
    intro t ht
    have hmem : t.piece ∈ s.testPieces.tail ++ [⟨"", .ending⟩] := by
      rw [← htail]
      exact List.mem_map_of_mem ht
    rcases List.mem_append.mp hmem with hp | hp
    · exact s.unbroken_testPieces _ hp
    · have hgap : t.trivia = "" := congrArg Piece.gap (List.mem_singleton.mp hp)
      unfold Token.breaksLine
      rw [hgap]
      decide
  have hfits : nestingOf s.testScript.statements ≤ maxNesting := (by decide : 6 ≤ 256)
  obtain ⟨ms, ns, stop, hrun, hms, hns⟩ := s.testScript.exists_script hfits hlexemes hunbroken
  obtain ⟨m, _, hm, hnil, rfl⟩ := List.forall₂_cons_left_iff.mp hms
  cases hnil
  obtain ⟨n, _, hn, hnil, rfl⟩ := List.forall₂_cons_left_iff.mp hns
  cases hnil
  exact ⟨m, n, stop, hrun, hm, hn⟩

/-- **The script is parsed** to a declaration and a group. -/
theorem exists_parse (h : s.ClosesArguments) (name : String) :
    ∃ file d type n m, ScriptFile.parse name s.text = .ok file
      ∧ file.root.form = .sourceFile [d, n]
      ∧ d.form = .functionDeclaration "fails" (s.parameters.map Word.text) [] (some type) none
      ∧ type.form = .typeText s.failingType
      ∧ s.groupCall.Stated m ∧ Comparison.relaid.Like m n := by
  obtain ⟨ts, hts, hmap⟩ := s.exists_tokenize h
  obtain ⟨us, vs, rfl, hus, hvs⟩ := List.map_eq_append_iff.mp hmap
  obtain ⟨v, vs, rfl⟩ : ∃ v vs', vs = v :: vs' := by
    refine List.exists_cons_of_ne_nil ?_
    rintro rfl
    cases hvs
  obtain ⟨u, us, rfl⟩ : ∃ u us', us = u :: us' := by
    refine List.exists_cons_of_ne_nil ?_
    rintro rfl
    cases hus
  obtain ⟨d, type, c', hd, hform, htype, hc'⟩ := s.exists_declaration
    (Cursor.ofTokens_eq (List.cons_ne_nil u (us ++ v :: vs))) hus (within maxNesting)
  obtain ⟨m, n, stop, hrun, hm, hn⟩ := s.exists_script_of_testPieces hc' hvs
  -- the declaration is the first statement, and the script goes on as the test does
  have hfirst : statementStep (within maxNesting) false [] (.ofTokens (u :: us ++ v :: vs))
      = .ok (some [d], c') := by
    have hkind : u.kind = .identifier :=
      congrArg (fun p => p.lexeme.kind) (List.cons.inj hus).1
    have hs : u.isPunct ';' = false := by
      unfold Token.isPunct
      rw [hkind]
      rfl
    have he : u.isEnd = false := by
      unfold Token.isEnd
      rw [hkind]
      rfl
    exact (statementStep_of_statement hs he).trans (by rw [hd]; rfl)
  have hlt : c'.remaining < (Cursor.ofTokens (u :: us ++ v :: vs)).remaining := by
    show c'.rest.length < (us ++ v :: vs).length
    rw [(List.cons.inj hc').2, List.length_append, List.length_cons]
    omega
  have hscript : script (.ofTokens (u :: us ++ v :: vs)) = .ok ([d, n], stop) := by
    rw [ScriptFile.script_eq_ok, repeatWhile_of_lt hfirst hlt, ← List.nil_append [d],
      repeatWhile_statementStep_append, ScriptFile.script_eq_ok.mp hrun, List.reverse_cons]
    rfl
  have hroot : parseTree s.text
      = .ok (stop.newNode (.sourceFile [d, n]) ⟨0, byteLength s.text.toList⟩) := by
    unfold parseTree
    rw [hts]
    dsimp only
    rw [hscript]
  exact ⟨_, d, type, n, m, ScriptFile.parse_of_ok hroot, rfl, hform, htype, hm, hn⟩

end FailingScript

end TypeTest
