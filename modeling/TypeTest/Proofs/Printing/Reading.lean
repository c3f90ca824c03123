import TypeTest.Proofs.Printing.Balance
import TypeTest.Script.Grammar.Statement

/-!
# Printed parts are read

A node **shows** an expression if it is of the expression's kind, with the names, values and
texts that were printed, and its parts show the parts of the expression in order; only the
range is left open. Here the parsers of lists, functions and blocks are shown to read what
was printed of them, on the assumption that the expressions inside are **readable**: on
every level they are read if they nest no deeper than that, and refused otherwise.
-/

namespace TypeTest

/-! ## What a node shows -/

/-- **A node shows a type**: it has the text of it. -/
def TypeLexemes.Shown {stops : List Char} (type : TypeLexemes stops) (n : Node) : Prop :=
  n.form = .typeText type.text

/-- **A node shows a parameter**, which has no value of its own. -/
inductive Parameter.Shown : Parameter → Node → Prop where
  | mk {p : Parameter} {type : Option Node} {range : TextRange} {index : Nat} :
    Option.Rel TypeLexemes.Shown p.type type →
    Parameter.Shown p (.mk (.parameter p.own.text type none) range index)

mutual

/-- **A node shows an expression.** -/
inductive Expression.Shown : Expression → Node → Prop where
  | name {own : Name} {range : TextRange} {index : Nat} :
    Expression.Shown (.name own) (.mk (.identifier own.text) range index)
  | string {literal : StringLiteral} {range : TextRange} {index : Nat} :
    Expression.Shown (.string literal) (.mk (.stringLiteral literal.value) range index)
  | number {literal : NumberLiteral} {range : TextRange} {index : Nat} :
    Expression.Shown (.number literal) (.mk (.numericLiteral literal.text) range index)
  | parenthesized {inner : Expression} {n : Node} {range : TextRange} {index : Nat} :
    inner.Shown n →
    Expression.Shown (.parenthesized inner) (.mk (.parenthesized n) range index)
  | array {elements : List Expression} {ns : List Node} {range : TextRange} {index : Nat} :
    List.Forall₂ Expression.Shown elements ns →
    Expression.Shown (.array elements) (.mk (.arrayLiteral ns) range index)
  | object {properties : List Property} {ns : List Node} {range : TextRange} {index : Nat} :
    List.Forall₂ Property.Shown properties ns →
    Expression.Shown (.object properties) (.mk (.objectLiteral ns) range index)
  | member {base : Expression} {own : Word} {n : Node} {range : TextRange} {index : Nat} :
    base.Shown n →
    Expression.Shown (.member base own) (.mk (.propertyAccess n own.text) range index)
  | call {callee : Expression} {types : List TypeArgument} {arguments : List Expression}
      {n : Node} {ts ns : List Node} {range : TextRange} {index : Nat} : callee.Shown n →
    List.Forall₂ TypeLexemes.Shown types ts → List.Forall₂ Expression.Shown arguments ns →
    Expression.Shown (.call callee types arguments) (.mk (.call n ts ns) range index)
  | function {own : Option Word} {parameters : List Parameter} {body : List Expression}
      {ns : List Node} {n : Node} {range : TextRange} {index : Nat} :
    List.Forall₂ Parameter.Shown parameters ns → BlockShown body n →
    Expression.Shown (.function own parameters body) (.mk (.function ns none n) range index)
  | arrow {head : ArrowHead} {body : Expression} {ns : List Node} {n : Node}
      {range : TextRange} {index : Nat} :
    List.Forall₂ Parameter.Shown head.parameters ns → body.Shown n →
    Expression.Shown (.arrow head body) (.mk (.function ns none n) range index)
  | arrowBlock {head : ArrowHead} {body : List Expression} {ns : List Node} {n : Node}
      {range : TextRange} {index : Nat} :
    List.Forall₂ Parameter.Shown head.parameters ns → BlockShown body n →
    Expression.Shown (.arrowBlock head body) (.mk (.function ns none n) range index)

/-- A node shows a property. -/
inductive Property.Shown : Property → Node → Prop where
  | assignment {key : PropertyKey} {value : Expression} {n : Node} {range : TextRange}
      {index : Nat} :
    value.Shown n →
    Property.Shown (.assignment key value) (.mk (.propertyAssignment key.value n) range index)
  | shorthand {own : Word} {range : TextRange} {index : Nat} :
    Property.Shown (.shorthand own) (.mk .shorthandProperty range index)

/-- **A node shows an expression as a statement.** -/
inductive Expression.Stated : Expression → Node → Prop where
  | mk {e : Expression} {n : Node} {range : TextRange} {index : Nat} : e.Shown n →
    Expression.Stated e (.mk (.expressionStatement n) range index)

/-- A node shows the statements of a block. -/
inductive BlockShown : List Expression → Node → Prop where
  | mk {body : List Expression} {ns : List Node} {range : TextRange} {index : Nat} :
    List.Forall₂ Expression.Stated body ns → BlockShown body (.mk (.block ns) range index)

end

namespace Parser

/-- The marks that stand after expressions which are not part of a larger one. -/
def stops : List Char := [',', ')', ']', '\x7d', ';']

/-- **An expression is readable**: wherever it is read, with so many levels left, it is read
in front of a mark that ends it if it nests no deeper. -/
def Readable (e : Expression) : Prop :=
  ∀ (levels : Nat) (p : Char) (rest : List Lexeme) (c : Cursor), p ∈ stops →
    c.Faces (e.lexemes ++ .mark p :: rest) →
    Comes ((within levels).expression c) (e.nesting ≤ levels) e.Shown (.mark p :: rest)

variable {levels : Nat} {c : Cursor} {p : Char} {rest : List Lexeme}

/-- The brackets that open end no expression. -/
theorem not_mem_openers (hp : p ∈ stops) : p ∉ openers := by
  revert p hp
  simp [stops, openers]

theorem faces_first {e : Expression} (hc : c.Faces (e.lexemes ++ rest)) :
    ∃ ls, c.Faces (e.first :: ls) := by
  obtain ⟨ls, hls⟩ := e.exists_lexemes_eq
  rw [hls] at hc
  exact ⟨_, hc⟩

/-! ## What is read of lexemes -/

/-- **Lexemes are read on a level**: they open like an expression, and in front of a mark that
ends expressions one is read for which `Q` holds, if they fit. -/
structure ReadAs (levels : Nat) (ls : List Lexeme) (fits : Prop) (Q : Node → Prop) : Prop where
  opens : ∃ l ms, ls = l :: ms ∧ l.Opens
  comes : ∀ (p : Char) (rest : List Lexeme) (c : Cursor), p ∈ stops →
    c.Faces (ls ++ .mark p :: rest) →
    Comes ((within levels).expression c) fits Q (.mark p :: rest)

theorem Readable.readAs {e : Expression} (he : Readable e) (levels : Nat) :
    ReadAs levels e.lexemes (e.nesting ≤ levels) e.Shown := by
  obtain ⟨ms, hms⟩ := e.exists_lexemes_eq
  exact ⟨⟨_, ms, hms, e.opens_first⟩, he levels⟩

section Items

variable {ι : Type} {items : List ι} {lex : ι → List Lexeme} {fitsOf : ι → Prop}
  {QOf : ι → Node → Prop} {ls : List Lexeme} {fits : Prop} {Q : Node → Prop}

theorem ReadAs.element (h : ReadAs levels ls fits Q) (hp : p ∈ stops)
    (hc : c.Faces (ls ++ .mark p :: rest)) :
    Comes (element (within levels) c) fits Q (.mark p :: rest) := by
  obtain ⟨l, ms, hms, hl⟩ := h.opens
  have hfirst : c.Faces (l :: (ms ++ .mark p :: rest)) := by
    rw [hms] at hc
    exact hc
  unfold Parser.element
  rw [current_bind, hfirst.kind, beq_false_of_ne hl.kind_ne_ellipsis]
  exact h.comes p rest c hp hc

/-- **A printed list is read** if each of its items is. -/
theorem comes_items {closer : Char}
    (h : ∀ i ∈ items, ReadAs levels (lex i) (fitsOf i) (QOf i)) (hcloser : closer ∈ stops)
    (hne : closer ≠ ',') (hc : c.Faces (commas (items.map lex) ++ .mark closer :: rest)) :
    Comes (commaList closer (element (within levels)) c) (∀ i ∈ items, fitsOf i)
      (List.Forall₂ QOf items) (.mark closer :: rest) := by
  refine comes_commaList hne (fun i hi => ?_) (fun i hi p hp c rest hc => ?_) hc
  · obtain ⟨l, ms, hms, hl⟩ := (h i hi).opens
    exact ⟨l, ms, hms, hl.kind_ne_punct (not_mem_openers hcloser)⟩
  · refine (h i hi).element ?_ hc
    rcases hp with rfl | rfl
    · exact List.mem_cons_self
    · exact hcloser

theorem comes_arguments (h : ∀ i ∈ items, ReadAs levels (lex i) (fitsOf i) (QOf i))
    (hc : c.Faces (inBrackets '(' ')' (commas (items.map lex)) ++ rest)) :
    Comes (arguments (within levels) c) (∀ i ∈ items, fitsOf i) (List.Forall₂ QOf items) rest := by
  rw [inBrackets_append] at hc
  unfold arguments
  rw [bind_of_ok _ (expect_mark hc _)]
  refine (comes_items h (by decide) (by decide) hc.next).close ?_
  exact fun ns c' hns hc' hfits => .of_ok hns hc' hfits

theorem comes_arrayLiteral (h : ∀ i ∈ items, ReadAs levels (lex i) (fitsOf i) (QOf i))
    (hc : c.Faces (inBrackets '[' ']' (commas (items.map lex)) ++ rest)) :
    Comes (arrayLiteral (within levels) c) (∀ i ∈ items, fitsOf i)
      (fun n => ∃ ns range index, n = .mk (.arrayLiteral ns) range index
        ∧ List.Forall₂ QOf items ns) rest := by
  rw [inBrackets_append] at hc
  unfold arrayLiteral
  rw [here_bind, advance_bind]
  refine (comes_items h (by decide) (by decide) hc.next).close ?_
  exact fun ns c' hns hc' hfits => .of_ok ⟨ns, _, _, rfl, hns⟩ hc'.store hfits

theorem comes_parenthesized (h : ReadAs levels ls fits Q)
    (hc : c.Faces (inBrackets '(' ')' ls ++ rest)) :
    Comes (parenthesized (within levels) c) fits
      (fun n => ∃ m range index, n = .mk (.parenthesized m) range index ∧ Q m) rest := by
  rw [inBrackets_append] at hc
  unfold parenthesized
  rw [here_bind, advance_bind]
  refine (h.comes ')' rest c.next (by decide) hc.next).close ?_
  exact fun n c' hn hc' hfits => .of_ok ⟨n, _, _, rfl, hn⟩ hc'.store hfits

/-! ## Object literals -/

theorem propertyName_key {key : PropertyKey} {ls : List Lexeme} (hc : c.Faces (key.lexeme :: ls)) :
    propertyName c.current = some key.value := by
  have hkind := hc.kind
  have htext := hc.text
  unfold propertyName
  cases key <;> rw [hkind]
  · exact congrArg some htext
  · rfl
  · exact congrArg some htext

/-- A property with a value is read if its value is. -/
theorem comes_assignment {key : PropertyKey} (h : ReadAs levels ls fits Q)
    (hp : p = ',' ∨ p = '\x7d') (hc : c.Faces (key.lexeme :: .mark ':' :: ls ++ .mark p :: rest)) :
    Comes (property (within levels) c) fits
      (fun n => ∃ m range index, n = .mk (.propertyAssignment key.value m) range index ∧ Q m)
      (.mark p :: rest) := by
  have hstop : p ∈ stops := by
    rcases hp with rfl | rfl <;> decide
  have hkey : (c.current.kind == .ellipsis) = false := by
    rw [hc.kind]
    cases key <;> rfl
  unfold property
  rw [here_bind, current_bind, hkey, if_neg Bool.false_ne_true, propertyName_key hc]
  dsimp only
  rw [advance_bind, bind_of_ok _ (accept_mark hc.next), if_pos rfl]
  refine (h.comes p rest _ hstop hc.next.next).bind id ?_
  exact fun n c' hn hc' hfits => .of_ok ⟨n, _, _, rfl, hn⟩ hc'.store hfits

/-- A property that is a name alone is read. -/
theorem comes_shorthand {own : Word} (hp : p = ',' ∨ p = '\x7d')
    (hc : c.Faces (own.lexeme :: .mark p :: rest)) :
    Comes (property (within levels) c) True
      (fun n => ∃ range index, n = .mk .shorthandProperty range index) (.mark p :: rest) := by
  have hne : p ≠ ':' ∧ p ≠ '(' := by
    rcases hp with rfl | rfl <;> decide
  have hkey : (c.current.kind == .ellipsis) = false := by
    rw [hc.kind]
    rfl
  have hname := @propertyName_key c (.word own) _ hc
  unfold property
  rw [here_bind, current_bind, hkey, if_neg Bool.false_ne_true, hname]
  dsimp only
  rw [advance_bind, bind_of_ok _ (accept_of_ne hc.next (Lexeme.kind_mark_ne hne.1)),
    if_neg Bool.false_ne_true, atPunct_bind, hc.next.isPunct_mark, beq_false_of_ne hne.2,
    if_neg Bool.false_ne_true]
  exact .of_ok ⟨_, _, rfl⟩ hc.next.store trivial

/-- **A printed object literal is read** if each of its members is. -/
theorem comes_objectLiteral
    (hopen : ∀ i ∈ items, ∃ l ms, lex i = l :: ms ∧ ∀ q, l.kind ≠ .punct q)
    (h : ∀ i ∈ items, ∀ p, p = ',' ∨ p = '\x7d' → ∀ c rest,
      c.Faces (lex i ++ .mark p :: rest) →
      Comes (property (within levels) c) (fitsOf i) (QOf i) (.mark p :: rest))
    (hc : c.Faces (inBrackets '\x7b' '\x7d' (commas (items.map lex)) ++ rest)) :
    Comes (objectLiteral (within levels) c) (∀ i ∈ items, fitsOf i)
      (fun n => ∃ ns range index, n = .mk (.objectLiteral ns) range index
        ∧ List.Forall₂ QOf items ns) rest := by
  rw [inBrackets_append] at hc
  have hlist : Comes (commaList '\x7d' (property (within levels)) c.next) (∀ i ∈ items, fitsOf i)
      (List.Forall₂ QOf items) (.mark '\x7d' :: rest) := by
    refine comes_commaList (by decide) (fun i hi => ?_) h hc.next
    obtain ⟨l, ms, hms, hl⟩ := hopen i hi
    exact ⟨l, ms, hms, hl _⟩
  unfold objectLiteral
  rw [bind_of_ok _ (expect_mark hc _)]
  refine hlist.close ?_
  exact fun ns c' hns hc' hfits => .of_ok ⟨ns, _, _, rfl, hns⟩ hc'.store hfits

end Items

/-- A printed property is read if its value is readable. -/
theorem comes_property {own : Property}
    (hvalue : ∀ key value, own = .assignment key value → Readable value)
    (hp : p = ',' ∨ p = '\x7d') (hc : c.Faces (own.lexemes ++ .mark p :: rest)) :
    Comes (property (within levels) c) (own.nesting ≤ levels) own.Shown (.mark p :: rest) := by
  cases own with
  | assignment key value =>
    refine (comes_assignment ((hvalue key value rfl).readAs levels) hp hc).imp ?_
    rintro n ⟨m, range, index, rfl, hm⟩
    exact .assignment hm
  | shorthand own =>
    refine ((comes_shorthand hp hc).imp ?_).congr (iff_of_true trivial (Nat.zero_le _))
    rintro n ⟨range, index, rfl⟩
    exact .shorthand

/-! ## Parameters -/

theorem comes_annotated {type : Option ParameterType} (hp : p = ',' ∨ p = ')')
    (hc : c.Faces (annotationLexemes type ++ .mark p :: rest)) :
    Comes (typeAfterColon (·.isPunctOf [',', ')', '=']) false c) True
      (Option.Rel TypeLexemes.Shown type) (.mark p :: rest) := by
  cases type with
  | none =>
    have hne : p ≠ ':' := by rcases hp with rfl | rfl <;> decide
    rw [typeAfterColon_of_ne hc (Lexeme.kind_mark_ne hne)]
    exact .of_ok .none hc trivial
  | some type =>
    have hends : ([',', ')', '='] ++ '>' :: closers).contains p = true := by
      rcases hp with rfl | rfl <;> decide
    unfold typeAfterColon
    rw [bind_of_ok _ (accept_mark hc), if_pos rfl]
    refine (comes_typeUntil (fun _ => rfl) (by decide) type hends hc.next).bind id ?_
    exact fun n c' hn hc' _ => .of_ok (.some hn) hc' trivial

/-- A printed parameter is read. -/
theorem comes_parameter {own : Parameter} (hp : p = ',' ∨ p = ')')
    (hc : c.Faces (own.lexemes ++ .mark p :: rest)) :
    Comes (parameter (within levels) c) True own.Shown (.mark p :: rest) := by
  obtain ⟨own, type⟩ := own
  have hname : parameterName c = .ok (own.text, c.next) := by
    have hplain : c.current.isPunctOf ['\x7b', '['] = false :=
      hc.isPunctOf_eq_false fun _ _ => TokenKind.noConfusion
    unfold parameterName
    rw [current_bind, hplain, if_neg Bool.false_ne_true]
    exact name_word hc _
  have hellipsis : (c.current.kind == .ellipsis) = false := by
    rw [hc.kind]
    rfl
  have hquestion : accept '?' c.next = .ok (false, c.next) := by
    have hne : p ≠ '?' := by rcases hp with rfl | rfl <;> decide
    cases type with
    | none => exact accept_of_ne hc.next (Lexeme.kind_mark_ne hne)
    | some type => exact accept_of_ne hc.next (Lexeme.kind_mark_ne (by decide))
  have hequals : p ≠ '=' := by rcases hp with rfl | rfl <;> decide
  unfold parameter
  rw [here_bind, bind_of_ok _ (skipIf_of_false hellipsis), bind_of_ok _ hname,
    bind_of_ok _ hquestion]
  refine (comes_annotated hp hc.next).bind id ?_
  intro annotated c' htype hc' _
  -- no value follows a type or a name: the mark after the parameter is no equals sign
  have hinitial : initialValue (within levels) c' = .ok (none, c') := by
    unfold initialValue
    rw [bind_of_ok _ (accept_of_ne hc' (Lexeme.kind_mark_ne hequals))]
    rfl
  rw [bind_of_ok _ hinitial]
  exact .of_ok (.mk htype) hc'.store trivial

theorem comes_parameters {own : List Parameter} (hc : c.Faces (parameterLexemes own ++ rest)) :
    Comes (parameters (within levels) c) True (List.Forall₂ Parameter.Shown own) rest := by
  rw [parameterLexemes, inBrackets_append] at hc
  have hlist : Comes (commaList ')' (parameter (within levels)) c.next) (∀ q ∈ own, True)
      (List.Forall₂ Parameter.Shown own) (.mark ')' :: rest) :=
    comes_commaList (by decide) (fun q _ => ⟨_, _, rfl, TokenKind.noConfusion⟩)
      (fun q _ p hp c rest hc => comes_parameter hp hc) hc.next
  unfold parameters
  rw [bind_of_ok _ (expect_mark hc _)]
  refine (hlist.congr (iff_true_intro fun _ _ => trivial)).close ?_
  exact fun ns c' hns hc' _ => .of_ok hns hc' trivial

/-! ## Statements and blocks -/

section Opening

variable {l : Lexeme} {ls ms : List Lexeme} {fits : Prop} {Q : Node → Prop}

/-- What opens with a word that means something opens with the word for functions. -/
theorem isWordOf_opens {words : List String} (hl : l.Opens) (hc : c.Faces (l :: ms))
    (hwords : ∀ w ∈ words, w ∈ keywords)
    (hfunction : l = .word "function" → "function" ∉ words) :
    c.current.isWordOf words = false := by
  rw [hc.isWordOf_eq]
  refine Bool.eq_false_iff.mpr fun h => ?_
  obtain ⟨hk, hw⟩ := Bool.and_eq_true_iff.mp h
  have hmem := List.contains_iff_mem.mp hw
  have hfirst := hl.text_eq (eq_of_beq hk) (hwords _ hmem)
  rw [hfirst] at hmem
  exact hfunction hfirst hmem

theorem isWord_opens {word : String} (hl : l.Opens) (hc : c.Faces (l :: ms))
    (hword : word ∈ keywords) (hfunction : l = .word "function" → word ≠ "function") :
    c.current.isWord word = false := by
  have hof : c.current.isWordOf [word] = false :=
    isWordOf_opens hl hc (List.forall_mem_singleton.mpr hword) fun hfirst hmem =>
      hfunction hfirst (List.mem_singleton.mp hmem).symm
  refine Bool.eq_false_iff.mpr fun h => Bool.eq_false_iff.mp hof ?_
  obtain ⟨hk, hw⟩ := Bool.and_eq_true_iff.mp h
  exact Bool.and_eq_true_iff.mpr ⟨hk, List.contains_iff_mem.mpr
    (List.mem_singleton.mpr (eq_of_beq hw))⟩

/-- **What stands as a statement by itself** starts neither with a brace nor with the word for
functions, and is read as an expression. -/
theorem statement_eq (hl : l.Opens) (hbrace : l.kind ≠ .punct '\x7b')
    (hfunction : l ≠ .word "function") (hc : c.Faces (l :: ms)) :
    statement (within levels) c = ((within levels).expression >>= fun expression =>
      accept ';' >>= fun _ => node c.current.start (.expressionStatement expression)) c := by
  have hword : ∀ word ∈ keywords, c.current.isWord word = false := fun word hw =>
    isWord_opens hl hc hw fun h => absurd h hfunction
  have hvariable : c.current.isWordOf variableWords = false :=
    isWordOf_opens hl hc (by decide) fun h => absurd h hfunction
  have hexports : skipExports c = .ok ((), c) := by
    refine repeatWhile_of_none ?_
    rw [atWord_bind, hword "export" (by decide)]
    rfl
  unfold statement
  rw [here_bind, atWord_bind, hword "import" (by decide), if_neg Bool.false_ne_true,
    bind_of_ok _ hexports]
  unfold plainStatement
  rw [current_bind, kindAhead_bind, kindAhead_bind, hword "declare" (by decide),
    hword "function" (by decide), hvariable, hword "type" (by decide),
    hword "interface" (by decide), hword "return" (by decide), hc.isPunct_eq_false hbrace]
  simp only [Bool.false_and, Bool.false_eq_true, if_false]

/-- The next statement is read where something opens it. -/
theorem statementStep_eq {inBlock : Bool} {found : List Node} (hl : l.Opens)
    (hc : c.Faces (l :: ms)) :
    statementStep (within levels) inBlock found c
      = (statement (within levels) >>= fun n => pure (some (n :: found))) c := by
  have hsemicolon : c.current.isPunct ';' = false :=
    hc.isPunct_eq_false (hl.kind_ne_punct (by decide))
  have hbrace : c.current.isPunct '\x7d' = false :=
    hc.isPunct_eq_false (hl.kind_ne_punct (by decide))
  have hend : c.current.isEnd = false := by
    rw [hc.isEnd_eq]
    exact beq_false_of_ne hl.kind_ne_end
  unfold statementStep
  rw [bind_of_ok _ (skipWhile_of_false hsemicolon), current_bind, hend, hbrace, Bool.and_false,
    if_neg Bool.false_ne_true, if_neg Bool.false_ne_true]

/-- No further statement stands at the end of the text. -/
theorem statementStep_end (hc : c.Faces []) (found : List Node) :
    statementStep (within levels) false found c = .ok (none, c) := by
  have hkind : c.current.isEnd = true := hc.isEnd_of_nil
  have hsemicolon : c.current.isPunct ';' = false := by
    unfold Token.isPunct
    rw [eq_of_beq hkind]
    rfl
  unfold statementStep
  rw [bind_of_ok _ (skipWhile_of_false hsemicolon), current_bind, hkind]
  rfl

/-- **Lexemes that stand as a statement**: they start neither with a brace nor with the word for
functions. -/
def StandAlone (ls : List Lexeme) : Prop :=
  ∀ l ms, ls = l :: ms → l.kind ≠ .punct '\x7b' ∧ l ≠ .word "function"

theorem StandAlone.append {ls : List Lexeme} (h : StandAlone ls) (hnil : ls ≠ [])
    (more : List Lexeme) : StandAlone (ls ++ more) := by
  obtain ⟨l, ms, rfl⟩ := List.exists_cons_of_ne_nil hnil
  rintro _ _ ⟨⟩
  exact h l ms rfl

/-- **An expression that stands as a statement is read as one.** -/
theorem ReadAs.statementStep (h : ReadAs levels ls fits Q) (hs : StandAlone ls)
    (hc : c.Faces (ls ++ .mark ';' :: rest)) (inBlock : Bool) (found : List Node) :
    Comes (statementStep (within levels) inBlock found c) fits
      (fun more => ∃ m range index, more = some (.mk (.expressionStatement m) range index :: found)
        ∧ Q m) rest := by
  obtain ⟨l, ms, rfl, hl⟩ := h.opens
  obtain ⟨hbrace, hfunction⟩ := hs l ms rfl
  rw [statementStep_eq hl hc]
  have hstatement : Comes (statement (within levels) c) fits
      (fun n => ∃ m range index, n = .mk (.expressionStatement m) range index ∧ Q m) rest := by
    rw [statement_eq hl hbrace hfunction hc]
    refine (h.comes ';' rest c (by decide) hc).bind id ?_
    intro n c' hn hc' hfits
    rw [bind_of_ok _ (accept_mark hc')]
    exact .of_ok ⟨n, _, _, rfl, hn⟩ hc'.next.store hfits
  refine hstatement.bind id ?_
  rintro _ c' ⟨m, range, index, rfl, hm⟩ hc' hfits
  exact .of_ok ⟨m, range, index, rfl, hm⟩ hc' hfits

end Opening

theorem comes_statementStep {e : Expression} (he : Readable e) (hs : e.Stands)
    (hc : c.Faces (e.lexemes ++ .mark ';' :: rest)) (inBlock : Bool) (found : List Node) :
    Comes (statementStep (within levels) inBlock found c) (e.nesting ≤ levels)
      (fun more => ∃ found', more = some found' ∧ ∃ n, e.Stated n ∧ found' = n :: found) rest := by
  have hstand : StandAlone e.lexemes := by
    obtain ⟨ls, hls⟩ := e.exists_lexemes_eq
    intro l ms hms
    rw [← (List.cons.inj (hls.symm.trans hms)).1]
    exact hs
  refine ((he.readAs levels).statementStep hstand hc inBlock found).imp ?_
  rintro more ⟨m, range, index, rfl, hm⟩
  exact ⟨_, rfl, _, .mk hm, rfl⟩

/-- **Printed statements are read** one by one, up to where a step finds no further one. -/
theorem comes_statements {es : List Expression} {inBlock : Bool} {left : List Lexeme}
    (hes : ∀ e ∈ es, Readable e) (hstand : ∀ e ∈ es, e.Stands)
    (hend : ∀ found c, c.Faces left →
      statementStep (within levels) inBlock found c = .ok (none, c))
    (hc : c.Faces (terminated (es.map Expression.lexemes) ++ left)) :
    Comes (statements (within levels) inBlock c) (∀ e ∈ es, e.nesting ≤ levels)
      (List.Forall₂ Expression.Stated es) left := by
  have hsteps : ∀ (es : List Expression) (found : List Node) (c : Cursor),
      (∀ e ∈ es, Readable e) → (∀ e ∈ es, e.Stands) →
      c.Faces (terminated (es.map Expression.lexemes) ++ left) →
      Comes (repeatWhile (statementStep (within levels) inBlock) found c)
        (∀ e ∈ es, e.nesting ≤ levels)
        (fun all => ∃ ns, List.Forall₂ Expression.Stated es ns ∧ all = ns.reverse ++ found)
        left := by
    intro es
    induction es with
    | nil =>
      intro found c _ _ hc
      rw [repeatWhile_of_none (hend found c hc)]
      exact .of_ok ⟨[], .nil, rfl⟩ hc fun _ h => absurd h List.not_mem_nil
    | cons e es ih =>
      intro found c hes hstand hc
      obtain ⟨he, hes⟩ := List.forall_mem_cons.mp hes
      obtain ⟨hs, hstand⟩ := List.forall_mem_cons.mp hstand
      have hfaces : c.Faces (e.lexemes ++ .mark ';' ::
          (terminated (es.map Expression.lexemes) ++ left)) := by
        rw [← List.cons_append, ← List.append_assoc]
        exact hc
      refine (comes_statementStep he hs hfaces inBlock found).repeatWhile_step hfaces.length_lt
        (fun h => h e List.mem_cons_self) ?_
      rintro _ c' ⟨n, hn, rfl⟩ hc' hfits
      refine ((ih (n :: found) c' hes hstand hc').imp ?_).congr ?_
      · rintro all ⟨ns, hns, rfl⟩
        refine ⟨n :: ns, .cons hn hns, ?_⟩
        rw [List.reverse_cons, List.append_assoc]
        rfl
      · rw [List.forall_mem_cons (a := e)]
        exact ⟨fun h => ⟨hfits, h⟩, fun h => h.2⟩
  unfold statements
  refine (hsteps es [] c hes hstand hc).bind id ?_
  rintro _ c' ⟨ns, hns, rfl⟩ hc' hfits
  refine .of_ok ?_ hc' hfits
  rw [List.append_nil, List.reverse_reverse]
  exact hns

/-- **A printed block is read**, on a level of its own. -/
theorem comes_block {es : List Expression} (hes : ∀ e ∈ es, Readable e)
    (hstand : ∀ e ∈ es, e.Stands)
    (hc : c.Faces (inBrackets '\x7b' '\x7d' (terminated (es.map Expression.lexemes)) ++ rest)) :
    Comes ((within levels).block c) (nestingOf es + 1 ≤ levels) (BlockShown es) rest := by
  rw [inBrackets_append] at hc
  cases levels with
  | zero =>
    -- no level is left, not even for an empty block
    exact .of_fail (Nat.not_succ_le_zero _)
  | succ levels =>
    have hend : ∀ found c, c.Faces (.mark '\x7d' :: rest) →
        statementStep (within levels) true found c = .ok (none, c) := by
      intro found c hc
      have hsemicolon : c.current.isPunct ';' = false :=
        hc.isPunct_eq_false (Lexeme.kind_mark_ne (by decide))
      unfold statementStep
      rw [bind_of_ok _ (skipWhile_of_false hsemicolon), current_bind, hc.isEnd_eq,
        hc.isPunct_mark]
      rfl
    rw [Nat.add_le_add_iff_right, nestingOf_le, within_succ_block]
    unfold block
    rw [bind_of_ok _ (expect_mark hc _)]
    refine (comes_statements hes hstand hend hc.next).close ?_
    exact fun ns c' hns hc' hfits => .of_ok (.mk hns) hc'.store hfits

/-! ## Functions -/

/-- The parameters and the body of a function. -/
theorem comes_functionRest {own : List Parameter} {body : List Expression}
    (hes : ∀ e ∈ body, Readable e) (hstand : ∀ e ∈ body, e.Stands)
    (hc : c.Faces (parameterLexemes own ++
      (inBrackets '\x7b' '\x7d' (terminated (body.map Expression.lexemes)) ++ rest)))
    (start : Nat) (name : Option Word) :
    Comes (functionRest (within levels) start c) (nestingOf body + 1 ≤ levels)
      (Expression.function name own body).Shown rest := by
  unfold functionRest
  refine (comes_parameters hc).bind (fun _ => trivial) ?_
  intro ns c₁ hns hc₁ _
  have hbrace : c₁.Faces (.mark '\x7b' :: (terminated (body.map Expression.lexemes)
      ++ .mark '\x7d' :: rest)) := by
    rw [← inBrackets_append]
    exact hc₁
  rw [bind_of_ok _ (typeAfterColon_of_ne hbrace (Lexeme.kind_mark_ne (by decide)) false)]
  refine (comes_block hes hstand hc₁).bind id ?_
  exact fun n c' hn hc' hfits => .of_ok (.function hns hn) hc'.store hfits

theorem comes_functionExpression {name : Option Word} {own : List Parameter}
    {body : List Expression} (hes : ∀ e ∈ body, Readable e) (hstand : ∀ e ∈ body, e.Stands)
    (hc : c.Faces ((Expression.function name own body).lexemes ++ rest)) :
    Comes (functionExpression (within levels) c)
      ((Expression.function name own body).nesting ≤ levels + 1)
      (Expression.function name own body).Shown rest := by
  rw [Expression.lexemes, lexemesOf_eq_map, List.cons_append, List.append_assoc,
    List.append_assoc] at hc
  show Comes _ (nestingOf body + 1 + 1 ≤ levels + 1) _ _
  rw [Nat.add_le_add_iff_right]
  unfold functionExpression
  rw [here_bind, advance_bind]
  cases name with
  | none =>
    have hname : c.next.current.isIdentifier = false := by
      have hparen := hc.next
      rw [Option.toList_none, List.map_nil, List.nil_append, parameterLexemes,
        inBrackets_append] at hparen
      rw [hparen.isIdentifier_eq]
      rfl
    rw [bind_of_ok _ (skipIf_of_false hname)]
    exact comes_functionRest hes hstand hc.next _ _
  | some own =>
    have hname : c.next.current.isIdentifier = true := by
      rw [@Cursor.Faces.isIdentifier_eq _ (.word own.text) _ hc.next]
      rfl
    rw [bind_of_ok _ ((skipIf_run _ _).trans (if_pos hname))]
    exact comes_functionRest hes hstand hc.next.next _ _

/-- What stands before the arrow is read as the parameters. -/
theorem comes_arrowParameters {head : ArrowHead} (hc : c.Faces (head.lexemes ++ .arrow :: rest)) :
    Comes (arrowParameters (within levels) c) True
      (List.Forall₂ Parameter.Shown head.parameters) (.arrow :: rest) := by
  unfold arrowParameters
  rw [current_bind]
  cases head with
  | bare own =>
    have hname : c.current.isIdentifier = true := by
      rw [@Cursor.Faces.isIdentifier_eq _ (.word own.text) _ hc]
      rfl
    rw [hname, if_pos rfl, advance_bind, @Cursor.Faces.text _ (.word own.text) _ hc]
    exact .of_ok (.cons (.mk .none) .nil) hc.next.store trivial
  | list own =>
    have hparen : c.Faces (.mark '(' :: (commas (own.map Parameter.lexemes)
        ++ .mark ')' :: .arrow :: rest)) := by
      rw [← inBrackets_append]
      exact hc
    rw [hparen.isIdentifier_eq]
    exact comes_parameters hc

/-- **A printed arrow function is read** if its body is. -/
theorem comes_arrowFunction {head : ArrowHead} {ls : List Lexeme} {fits : Prop}
    {Q : Node → Prop} (hc : c.Faces (head.lexemes ++ .arrow :: ls))
    (hbody : ∀ c, c.Faces ls → Comes (arrowBody (within levels) c) fits Q rest) :
    Comes (arrowFunction (within levels) c) fits
      (fun n => ∃ ns b range index, n = .mk (.function ns none b) range index
        ∧ List.Forall₂ Parameter.Shown head.parameters ns ∧ Q b) rest := by
  unfold arrowFunction
  rw [here_bind]
  refine (comes_arrowParameters hc).bind (fun _ => trivial) ?_
  intro ns c₁ hns hc₁ _
  rw [bind_of_ok _ (typeAfterColon_of_ne hc₁ TokenKind.noConfusion false), current_bind, hc₁.kind]
  show Comes ((advance >>= fun _ => _) c₁) _ _ _
  rw [advance_bind]
  refine (hbody c₁.next hc₁.next).bind id ?_
  exact fun b c' hb hc' hfits => .of_ok ⟨ns, b, _, _, rfl, hns, hb⟩ hc'.store hfits

end Parser

end TypeTest
