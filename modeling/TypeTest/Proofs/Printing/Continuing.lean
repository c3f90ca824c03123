import TypeTest.Proofs.Printing.Reading

/-!
# Reading goes on

Members and calls are read by a loop, from the inside out. So what is said of the lexemes of an
operand is not what the parser returns but how it **goes on**: once they are read, in front of
a lexeme that may follow them, the loop is where it would be after a node that shows them
(`Parser.Continues`). This is closed under turns of the loop, and where the loop stops it says
that an operand is read.

What may follow depends on what was read. An arrow behind a name or a parenthesis makes it the
head of a function, and so does, behind a parenthesis, a colon.
-/

namespace TypeTest

namespace Parser

variable {levels start : Nat} {c : Cursor} {p : Char} {rest : List Lexeme}

/-! ## The choice of what to read -/

/-- Nothing that opens an expression is the word for asynchronous functions. -/
theorem primary_eq {l : Lexeme} {ls : List Lexeme} (hl : l.Opens) (hc : c.Faces (l :: ls)) :
    primary (within levels) c = plainPrimary (within levels) c := by
  have hasync : atAsync c = false := by
    unfold atAsync
    rw [isWord_opens hl hc (by decide) (fun _ => by decide), Bool.false_and]
  unfold primary
  rw [get_bind, hasync]
  rfl

/-- A name is an arrow function if an arrow follows, and else stands for itself. -/
theorem plainPrimary_name {own : Name} {l : Lexeme} (hc : c.Faces (own.lexeme :: l :: rest)) :
    plainPrimary (within levels) c
      = if l.kind = .arrow then arrowFunction (within levels) c
        else leaf (.identifier own.text) c := by
  have htext : c.current.text = own.text := hc.text
  have hfunction : own.text ≠ "function" := fun h => own.free (h ▸ by decide)
  unfold plainPrimary
  rw [current_bind, hc.kind]
  show (if c.current.text == "function" then _ else _ : Parser Node) c = _
  rw [htext, beq_false_of_ne hfunction, if_neg Bool.false_ne_true, kindAhead_bind,
    hc.kindAhead_one, ite_run]
  exact if_congr beq_iff_eq rfl rfl

/-- **The search for the arrow sees what follows the parenthesis** that belongs to the one at
the cursor. -/
theorem arrowAhead_eq {ls : List Lexeme} {l : Lexeme} (hls : Balanced ls)
    (hc : c.Faces (inBrackets '(' ')' ls ++ l :: rest)) :
    arrowAhead 0 (c.current :: c.rest) = (l.kind == .arrow || l.kind == .punct ':') := by
  rw [inBrackets_append] at hc
  -- the tokens are cut where the lexemes are: inside, the closing parenthesis, what follows
  have hrest : c.rest.map Token.lexeme = ls ++ .mark ')' :: l :: (rest ++ [.ending]) :=
    (List.cons.inj hc.lexemes).2.trans (List.append_assoc _ _ _)
  obtain ⟨ts, us, htokens, hts, hus⟩ := List.map_eq_append_iff.mp hrest
  obtain ⟨u, us, rfl, hu, hus⟩ := List.map_eq_cons_iff.mp hus
  obtain ⟨v, us, rfl, hv, _⟩ := List.map_eq_cons_iff.mp hus
  have hopen : c.current.isPunctOf openers = true := hc.isPunctOf_mark openers
  have hclose : ∀ qs : List Char, u.isPunctOf qs = qs.contains ')' := Token.isPunctOf_of_lexeme hu
  have hkind : v.kind = l.kind := congrArg Lexeme.kind hv
  rw [arrowAhead_cons, hopen, if_pos rfl, htokens, hls.passes ts _ 1 hts Nat.one_pos,
    arrowAhead_cons, hclose, hclose]
  show (v.kind == .arrow || v.kind == .punct ':') = _
  rw [hkind]

/-- **A parenthesis opens parameters** if an arrow or a colon follows it, and else an
expression. -/
theorem plainPrimary_eq_ite {ls : List Lexeme} {l : Lexeme} (hls : Balanced ls)
    (hc : c.Faces (inBrackets '(' ')' ls ++ l :: rest)) :
    plainPrimary (within levels) c
      = if l.kind == .arrow || l.kind == .punct ':' then arrowFunction (within levels) c
        else parenthesized (within levels) c := by
  have hahead := arrowAhead_eq hls hc
  rw [inBrackets_append] at hc
  unfold plainPrimary
  rw [current_bind, hc.kind]
  show (if arrowAhead 0 (c.current :: c.rest) then _ else _ : Parser Node) c = _
  rw [hahead, ite_run]

theorem plainPrimary_paren {ls : List Lexeme} {l : Lexeme} (hls : Balanced ls)
    (hl : l.kind ≠ .punct ':') (hc : c.Faces (inBrackets '(' ')' ls ++ l :: rest)) :
    plainPrimary (within levels) c
      = if l.kind = .arrow then arrowFunction (within levels) c
        else parenthesized (within levels) c := by
  rw [plainPrimary_eq_ite hls hc, beq_false_of_ne hl, Bool.or_false]
  exact if_congr beq_iff_eq rfl rfl

/-- What stands before an arrow is read as the head of a function. -/
theorem plainPrimary_head {head : ArrowHead} (hc : c.Faces (head.lexemes ++ .arrow :: rest)) :
    plainPrimary (within levels) c = arrowFunction (within levels) c := by
  cases head with
  | bare own => exact (plainPrimary_name hc).trans (if_pos rfl)
  | list own =>
    have hbalanced : Balanced (commas (own.map Parameter.lexemes)) :=
      .commas (List.forall_mem_map.mpr fun q _ => q.balanced)
    exact (plainPrimary_paren hbalanced TokenKind.noConfusion hc).trans (if_pos rfl)

/-! ## Members and calls -/

theorem comes_memberStep {own : Word} (n : Node)
    (hc : c.Faces (.mark '.' :: own.lexeme :: rest)) :
    Comes (postfixStep (within levels) start n c) True
      (fun found => ∃ m, found = some m
        ∧ ∃ range index, m = .mk (.propertyAccess n own.text) range index) rest := by
  have hdot : c.current.isPunct '.' = true := hc.isPunct_mark '.'
  have hquestion : c.current.isPunct '?' = false := hc.isPunct_mark '?'
  have hmember : memberAccess start n c = node start (.propertyAccess n own.text) c.next.next := by
    unfold memberAccess
    rw [bind_of_ok _ (skipIf_of_false hquestion), advance_bind, bind_of_ok _ (name_word hc.next _)]
  unfold postfixStep
  rw [current_bind, kindAhead_bind, lineBreaks_bind, hdot, Bool.true_or, if_pos rfl,
    bind_of_ok _ hmember]
  exact .of_ok ⟨_, rfl, _, _, rfl⟩ hc.next.next.store trivial

/-- What stands between a callee and what follows the call starts with a bracket. -/
theorem exists_arguments_eq (types : List TypeArgument) (ls : List Lexeme) :
    ∃ q ms, (q = '(' ∨ q = '<')
      ∧ typeArgumentLexemes types ++ (inBrackets '(' ')' ls ++ rest) = .mark q :: ms := by
  cases types with
  | nil => exact ⟨'(', _, .inl rfl, rfl⟩
  | cons type types => exact ⟨'<', _, .inr rfl, rfl⟩

section Calls

variable {ι : Type} {items : List ι} {lex : ι → List Lexeme} {fitsOf : ι → Prop}
  {QOf : ι → Node → Prop} {types : List TypeArgument}

/-- **A node shows a call** of a node, with types and arguments that show what was printed. -/
def CallShown (QOf : ι → Node → Prop) (n : Node) (types : List TypeArgument) (items : List ι)
    (m : Node) : Prop :=
  ∃ ts ns range index, m = .mk (.call n ts ns) range index
    ∧ List.Forall₂ TypeLexemes.Shown types ts ∧ List.Forall₂ QOf items ns

theorem comes_callStep (n : Node)
    (harguments : ∀ i ∈ items, ReadAs levels (lex i) (fitsOf i) (QOf i))
    (hc : c.Faces (typeArgumentLexemes types
      ++ (inBrackets '(' ')' (commas (items.map lex)) ++ rest))) :
    Comes (postfixStep (within levels) start n c) (∀ i ∈ items, fitsOf i)
      (fun found => ∃ m, found = some m ∧ CallShown QOf n types items m) rest := by
  have hcalled : ∀ (ts : List Node) (c : Cursor), List.Forall₂ TypeLexemes.Shown types ts →
      c.Faces (inBrackets '(' ')' (commas (items.map lex)) ++ rest) →
      Comes (called (within levels) start n ts c) (∀ i ∈ items, fitsOf i)
        (CallShown QOf n types items) rest := by
    intro ts c hts hc
    unfold called
    refine (comes_arguments harguments hc).bind id ?_
    exact fun ns c' hns hc' hfits => .of_ok ⟨ts, ns, _, _, rfl, hts, hns⟩ hc'.store hfits
  unfold postfixStep
  rw [current_bind, kindAhead_bind, lineBreaks_bind]
  cases types with
  | nil =>
    have hparen : c.Faces (.mark '(' :: (commas (items.map lex) ++ .mark ')' :: rest)) := by
      rw [← inBrackets_append]
      exact hc
    rw [hparen.isPunct_mark, hparen.isPunct_mark, hparen.isPunct_mark]
    refine (hcalled [] c .nil hc).bind id ?_
    exact fun m c' hm hc' hfits => .of_ok ⟨m, rfl, hm⟩ hc' hfits
  | cons type types =>
    have hangle : c.Faces (.mark '<' :: (commas ((type :: types).map TypeLexemes.lexemes)
        ++ .mark '>' :: .mark '(' :: (commas (items.map lex) ++ .mark ')' :: rest))) := by
      rw [← inBrackets_append, ← inBrackets_append]
      exact hc
    obtain ⟨ts, c', hrun, hts, hc'⟩ := exists_typeArguments hangle
    rw [hangle.isPunct_mark, hangle.isPunct_mark, hangle.isPunct_mark, hangle.isPunct_mark]
    show Comes ((typeArguments >>= fun _ => _) c) _ _ _
    rw [bind_of_ok _ hrun]
    rw [← inBrackets_append] at hc'
    refine (hcalled ts c' hts hc').bind id ?_
    exact fun m c' hm hc' hfits => .of_ok ⟨m, rfl, hm⟩ hc' hfits

end Calls

/-- Nothing extends an expression in front of a mark that is none of those which do. -/
theorem postfixStep_mark (hp : p ∉ ['.', '?', '(', '<', '[', '!']) (hc : c.Faces (.mark p :: rest))
    (n : Node) : postfixStep (within levels) start n c = .ok (none, c) := by
  have hmark : ∀ q ∈ ['.', '?', '(', '<', '[', '!'], c.current.isPunct q = false := fun q hq =>
    hc.isPunct_eq_false (Lexeme.kind_mark_ne fun h => hp (h ▸ hq))
  have hword : c.current.isWordOf ["as", "satisfies"] = false := hc.isWordOf_eq _
  unfold postfixStep
  rw [current_bind, kindAhead_bind, lineBreaks_bind, hmark '.' (by decide), hmark '?' (by decide),
    hmark '(' (by decide), hmark '<' (by decide), hmark '[' (by decide), hmark '!' (by decide),
    hword]
  rfl

/-- Nothing extends an expression in front of a mark that ends it. -/
theorem postfixStep_stop (hp : p ∈ stops) (hc : c.Faces (.mark p :: rest)) (n : Node) :
    postfixStep (within levels) start n c = .ok (none, c) := by
  refine postfixStep_mark ?_ hc n
  revert p
  simp [stops]

/-- No operator stands at a mark that ends an expression. -/
theorem operatorStep_stop (hp : p ∈ stops) (hc : c.Faces (.mark p :: rest)) (found : List Node) :
    operatorStep (within levels) ⟨found, 0⟩ c = .ok (none, c) := by
  have hquestion : c.current.isPunct '?' = false :=
    hc.isPunct_eq_false (Lexeme.kind_mark_ne fun h => by subst h; revert hp; decide)
  have hoperator : atOperator c = false := by
    have hmark : ∀ p ∈ stops,
        ['+', '-', '*', '/', '%', '<', '>', '=', '!', '&', '|', '^', '?'].contains p = false := by
      simp [stops]
    have hword : c.current.isWordOf ["instanceof", "in"] = false := hc.isWordOf_eq _
    unfold atOperator
    rw [hc.isPunctOf_mark, hmark p hp, hword]
    rfl
  unfold operatorStep
  rw [current_bind, kindAhead_bind, hquestion, decide_eq_false (Nat.lt_irrefl 0), Bool.and_false,
    Bool.false_and, if_neg Bool.false_ne_true, if_neg Bool.false_ne_true, get_bind, hoperator]
  rfl

/-! ## Expressions go on -/

section Going

variable {follows : Lexeme → Prop} {ls : List Lexeme} {nesting : Nat} {Q : Node → Prop}
  {l : Lexeme}

/-- **Parsing goes on after lexemes**: in front of one that may follow, the loop over members and
calls is where it would be from a node for which `Q` holds, if the lexemes nest no deeper than
may be, and otherwise they are refused. -/
def Continues (follows : Lexeme → Prop) (ls : List Lexeme) (nesting : Nat) (Q : Node → Prop) :
    Prop :=
  ∀ (levels start : Nat) (l : Lexeme) (rest : List Lexeme) (c : Cursor), follows l →
    c.Faces (ls ++ l :: rest) →
    (nesting ≤ levels + 1 → ∃ n c',
      (primary (within levels) >>= repeatWhile (postfixStep (within levels) start)) c
        = repeatWhile (postfixStep (within levels) start) n c'
      ∧ Q n ∧ c'.Faces (l :: rest))
    ∧ (¬ nesting ≤ levels + 1 → ∃ offset,
      (primary (within levels) >>= repeatWhile (postfixStep (within levels) start)) c
        = .error ⟨.tooDeeplyNested, offset⟩)

/-- Parsing goes on after what is read without the loop. -/
theorem Continues.of_plainPrimary (hopens : ∃ l ms, ls = l :: ms ∧ l.Opens)
    (h : ∀ (levels : Nat) (l : Lexeme) (rest : List Lexeme) (c : Cursor), follows l →
      c.Faces (ls ++ l :: rest) →
      Comes (plainPrimary (within levels) c) (nesting ≤ levels + 1) Q (l :: rest)) :
    Continues follows ls nesting Q := by
  intro levels start l rest c hl hc
  have hprimary := h levels l rest c hl hc
  obtain ⟨first, ms, rfl, hfirst⟩ := hopens
  rw [← primary_eq hfirst hc] at hprimary
  refine ⟨fun hfits => ?_, fun hfits => ?_⟩
  · obtain ⟨n, c', hrun, hn, hc'⟩ := hprimary.1 hfits
    exact ⟨n, c', bind_of_ok _ hrun, hn, hc'⟩
  · obtain ⟨offset, hrun⟩ := hprimary.2 hfits
    exact ⟨offset, bind_of_error _ hrun⟩

/-- **A turn of the loop**: what goes on to lexemes that the loop takes goes on after them. -/
theorem Continues.turn {follows' : Lexeme → Prop} {more : List Lexeme} {nesting' : Nat}
    {Q' : Node → Prop} (h : Continues follows ls nesting Q) (hle : nesting ≤ nesting')
    (hstep : ∀ (levels start : Nat) (l : Lexeme) (rest : List Lexeme), follows' l →
      (∃ m ms, more ++ l :: rest = m :: ms ∧ follows m)
      ∧ ∀ (c : Cursor) (n : Node), c.Faces (more ++ l :: rest) → Q n → nesting ≤ levels + 1 →
        Comes (postfixStep (within levels) start n c) (nesting' ≤ levels + 1)
          (fun found => ∃ m, found = some m ∧ Q' m) (l :: rest))
    (hne : more ≠ []) : Continues follows' (ls ++ more) nesting' Q' := by
  intro levels start l rest c hl hc
  obtain ⟨⟨m, ms, hms, hm⟩, hcomes⟩ := hstep levels start l rest hl
  rw [List.append_assoc, hms] at hc
  obtain ⟨hgo, hdeep⟩ := h levels start m ms c hm hc
  have hlt : ∀ c₁ : Cursor, c₁.Faces (m :: ms) → (l :: rest).length < c₁.remaining := by
    intro c₁ hc₁
    rw [hc₁.remaining_eq, ← hms, List.length_append]
    exact Nat.lt_add_of_pos_left (List.length_pos_iff.mpr hne)
  by_cases hfits : nesting ≤ levels + 1
  · obtain ⟨n, c₁, hrun, hn, hc₁⟩ := hgo hfits
    rw [hrun]
    have hstep₁ := hcomes c₁ n (hms ▸ hc₁) hn hfits
    refine ⟨fun hfits' => ?_, fun hfits' => ?_⟩
    · obtain ⟨_, c₂, hrun₂, ⟨n₂, rfl, hn₂⟩, hc₂⟩ := hstep₁.1 hfits'
      exact ⟨n₂, c₂, repeatWhile_of_lt hrun₂ (by rw [hc₂.remaining_eq]; exact hlt c₁ hc₁), hn₂, hc₂⟩
    · obtain ⟨offset, hrun₂⟩ := hstep₁.2 hfits'
      exact ⟨offset, repeatWhile_of_error hrun₂⟩
  · exact ⟨fun hfits' => absurd (Nat.le_trans hle hfits') hfits, fun _ => hdeep hfits⟩

/-- A member goes on from what it is a member of. -/
theorem Continues.member {own : Word} (h : Continues follows ls nesting Q)
    (hdot : follows (.mark '.')) (follows' : Lexeme → Prop) :
    Continues follows' (ls ++ [.mark '.', own.lexeme]) nesting
      (fun m => ∃ n range index, m = .mk (.propertyAccess n own.text) range index ∧ Q n) := by
  refine h.turn (Nat.le_refl _) (fun levels start l rest _ => ⟨⟨_, _, rfl, hdot⟩, ?_⟩)
    (List.cons_ne_nil _ _)
  intro c n hc hn hfits
  refine ((comes_memberStep n hc).imp ?_).congr (iff_of_true trivial hfits)
  rintro found ⟨m, rfl, range, index, rfl⟩
  exact ⟨_, rfl, n, range, index, rfl, hn⟩

/-- A call goes on from what is called. -/
theorem Continues.call {ι : Type} {items : List ι} {lex : ι → List Lexeme} {nestingOf : ι → Nat}
    {QOf : ι → Node → Prop} {types : List TypeArgument} {deepest : Nat}
    (h : Continues follows ls nesting Q) (hparen : follows (.mark '('))
    (hangle : follows (.mark '<'))
    (harguments : ∀ levels, ∀ i ∈ items, ReadAs levels (lex i) (nestingOf i ≤ levels) (QOf i))
    (hdeepest : ∀ levels, deepest ≤ levels ↔ ∀ i ∈ items, nestingOf i ≤ levels)
    (follows' : Lexeme → Prop) :
    Continues follows'
      (ls ++ (typeArgumentLexemes types ++ inBrackets '(' ')' (commas (items.map lex))))
      (max nesting (deepest + 1)) (fun m => ∃ n, CallShown QOf n types items m ∧ Q n) := by
  refine h.turn (Nat.le_max_left _ _) (fun levels start l rest _ => ⟨?_, ?_⟩) ?_
  · -- the callee stands in front of a bracket, whichever it is
    obtain ⟨q, ms, hq, hms⟩ := @exists_arguments_eq (l :: rest) types (commas (items.map lex))
    refine ⟨.mark q, ms, (List.append_assoc _ _ _).trans hms, ?_⟩
    rcases hq with rfl | rfl
    · exact hparen
    · exact hangle
  · intro c n hc hn hfits
    rw [List.append_assoc] at hc
    refine ((comes_callStep n (harguments levels) hc).imp ?_).congr ?_
    · rintro found ⟨m, rfl, hm⟩
      exact ⟨m, rfl, n, hm, hn⟩
    · rw [Nat.max_le, Nat.add_le_add_iff_right, hdeepest]
      exact ⟨fun h => ⟨hfits, h⟩, fun h => h.2⟩
  · exact List.append_ne_nil_of_right_ne_nil _ (List.cons_ne_nil _ _)

theorem Continues.imp {Q' : Node → Prop} (h : Continues follows ls nesting Q)
    (hQ : ∀ n, Q n → Q' n) : Continues follows ls nesting Q' := by
  intro levels start l rest c hl hc
  obtain ⟨hgo, hdeep⟩ := h levels start l rest c hl hc
  refine ⟨fun hfits => ?_, hdeep⟩
  obtain ⟨n, c', hrun, hn, hc'⟩ := hgo hfits
  exact ⟨n, c', hrun, hQ n hn, hc'⟩

/-- No operator stands before what opens an expression. -/
theorem atUnaryOperator_opens {ms : List Lexeme} (hl : l.Opens) (hc : c.Faces (l :: ms)) :
    atUnaryOperator c = false := by
  have hmark : c.current.isPunctOf ['!', '-', '+', '~'] = false :=
    hc.isPunctOf_eq_false fun q hq => hl.kind_ne_punct (by revert q hq; simp [openers])
  have hword : c.current.isWordOf ["typeof", "void", "await", "new", "delete"] = false :=
    isWordOf_opens hl hc (by decide) (fun _ => by decide)
  unfold atUnaryOperator
  rw [hmark, hword]
  rfl

/-- **An operand is read** in front of what neither extends it nor makes it something else. -/
theorem Continues.comes_operand (h : Continues follows ls nesting Q)
    (hopens : ∃ l ms, ls = l :: ms ∧ l.Opens) (hl : follows l)
    (hstop : ∀ start n c, c.Faces (l :: rest) →
      postfixStep (within levels) start n c = .ok (none, c))
    (hc : c.Faces (ls ++ l :: rest)) :
    Comes (operand (within levels) c) (nesting ≤ levels + 1) Q (l :: rest) := by
  obtain ⟨hgo, hdeep⟩ := h levels c.current.start l rest c hl hc
  have hunary : atUnaryOperator c = false := by
    obtain ⟨first, ms, rfl, hfirst⟩ := hopens
    exact atUnaryOperator_opens hfirst hc
  unfold operand
  rw [bind_of_ok _ (skipWhile_of_false hunary)]
  show Comes ((primary (within levels) >>= repeatWhile _) c) _ _ _
  refine ⟨fun hfits => ?_, hdeep⟩
  obtain ⟨n, c', hrun, hn, hc'⟩ := hgo hfits
  exact ⟨n, c', hrun.trans (repeatWhile_of_none (hstop _ n c' hc')), hn, hc'⟩

/-- **An operand alone is an expression.** -/
theorem Continues.readAs (h : Continues follows ls nesting Q)
    (hopens : ∃ l ms, ls = l :: ms ∧ l.Opens) (hfollows : ∀ p ∈ stops, follows (.mark p))
    (hpos : 0 < nesting) (levels : Nat) : ReadAs levels ls (nesting ≤ levels) Q := by
  refine ⟨hopens, fun p rest c hp hc => ?_⟩
  cases levels with
  | zero =>
    -- the expression needs a level for itself
    exact .of_fail (Nat.not_le_of_lt hpos)
  | succ levels =>
    rw [within_succ_expression]
    unfold operation
    rw [here_bind]
    refine (h.comes_operand hopens (hfollows p hp)
      (fun _ n c' hc' => postfixStep_stop hp hc' n) hc).bind id ?_
    intro n c' hn hc' hfits
    rw [bind_of_ok _ (repeatWhile_of_none (operatorStep_stop hp hc' [n]))]
    exact .of_ok hn hc' hfits

end Going

end Parser

end TypeTest
