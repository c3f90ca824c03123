import TypeTest.Proofs.Operators.SingleStatement

/-!
# Operators after a type assertion

The type behind `as` or `satisfies` goes on to a semicolon, a comma or a closing bracket. An
operator is none of these, and an operand stands in the type like anything else. So in
`x as T || f();` the type is `T || f()`: whatever operator and whatever operands follow an
assertion, the statement is parsed to the expression in front of it, and no call behind the
assertion is in the tree.

The loop over members and calls is what reads an assertion, and the expression is the same after
it. Hence parsing goes on after an operand with an assertion as it does after the operand alone,
in front of the marks that end the type (`Parser.Continues.assertion`).
-/

namespace TypeTest

open TypeTest.Parser

/-- The marks that end the type of an assertion, besides closing brackets. -/
def assertionEnds : List Char := [';', ',']

/-- **Lexemes in which the type of an assertion goes on**: outside of brackets stands none of the
marks that end it. -/
structure Ongoing (ls : List Lexeme) : Prop where
  scans : ∀ l ∈ ls, l.Scans
  level : Level (fun l => ∀ p ∈ assertionEnds, l.kind ≠ .punct p) ls

namespace Ongoing

variable {ls ms : List Lexeme} {p : Phrase}

theorem append (h : Ongoing ls) (h' : Ongoing ms) : Ongoing (ls ++ ms) :=
  ⟨List.forall_mem_append.mpr ⟨h.scans, h'.scans⟩, h.level.append h'.level⟩

theorem mark {q : Char} (hscans : (Lexeme.mark q).Scans)
    (hbracket : (Lexeme.mark q).isBracket = false) (hq : q ∉ assertionEnds) :
    Ongoing [.mark q] :=
  ⟨List.forall_mem_singleton.mpr hscans,
    .plain hbracket (fun _ hp => Lexeme.kind_mark_ne fun h => hq (h ▸ hp)) .nil⟩

theorem of_type (type : TypeLexemes assertionEnds) : Ongoing type.lexemes :=
  ⟨type.scans, type.bracketed.level⟩

/-- **An operand does not end the type of an assertion.** -/
theorem of_operand (h : p.IsOperand) : Ongoing p.lexemes := by
  refine ⟨h.balanced.scans, h.level.imp fun l hl q hq hk => ?_⟩
  unfold Lexeme.Outer at hl
  rw [hk] at hl
  obtain rfl : q = '.' := hl
  revert hq
  decide

end Ongoing

namespace Parser

variable {levels start : Nat} {c : Cursor} {word : Word} {ls rest : List Lexeme} {p : Char}

/-- **An assertion changes nothing about an expression**, and everything up to the mark that ends
its type belongs to it. -/
theorem comes_assertionStep (hword : word.text ∈ ["as", "satisfies"]) (hls : Ongoing ls)
    (hnil : ls ≠ []) (hp : p ∈ stops) (n : Node)
    (hc : c.Faces (word.lexeme :: (ls ++ .mark p :: rest))) :
    Comes (postfixStep (within levels) start n c) True (· = some n) (.mark p :: rest) := by
  have hmark : ∀ q : Char, c.current.isPunct q = false := fun q =>
    hc.isPunct_eq_false TokenKind.noConfusion
  have hassertion : c.current.isWordOf ["as", "satisfies"] = true :=
    (hc.isWordOf_eq _).trans (List.contains_iff_mem.mpr hword)
  have hends : (assertionEnds ++ '>' :: closers).contains p = true := by
    have hall : stops.all (assertionEnds ++ '>' :: closers).contains = true := by decide
    exact List.all_eq_true.mp hall p hp
  unfold postfixStep
  rw [current_bind, kindAhead_bind, lineBreaks_bind, hmark, hmark, hmark, hmark, hmark, hmark,
    hassertion]
  show Comes ((advance >>= fun _ => _ : Parser (Option Node)) c) _ _ _
  rw [advance_bind]
  refine (comes_typeUntil_of_level (fun _ => rfl) (by decide) hls.level hls.scans hnil true hends
    hc.next).bind id ?_
  exact fun _ _ _ hc' _ => .of_ok rfl hc' trivial

/-- **Parsing goes on after an assertion** as it does after the expression in front of it. -/
theorem Continues.assertion {follows : Lexeme → Prop} {ms : List Lexeme} {nesting : Nat}
    {Q : Node → Prop} (h : Continues follows ms nesting Q) (hfollows : follows word.lexeme)
    (hword : word.text ∈ ["as", "satisfies"]) (hls : Ongoing ls) (hnil : ls ≠ []) :
    Continues (fun l => ∃ p ∈ stops, l = .mark p) (ms ++ word.lexeme :: ls) nesting Q := by
  refine h.turn (Nat.le_refl _) ?_ (List.cons_ne_nil _ _)
  rintro levels start _ rest ⟨p, hp, rfl⟩
  refine ⟨⟨_, _, rfl, hfollows⟩, fun c n hc hn hfits => ?_⟩
  refine ((comes_assertionStep hword hls hnil hp n hc).imp ?_).congr (iff_of_true trivial hfits)
  rintro _ rfl
  exact ⟨n, rfl, hn⟩

end Parser

/-! ## What follows an assertion -/

/-- An operator between two operands. -/
inductive Operator where
  | or
  | and
  | coalesce
  | plus
  | equal

/-- The characters of an operator, each a token of its own. -/
def Operator.lexemes : Operator → List Lexeme
  | .or => [.mark '|', .mark '|']
  | .and => [.mark '&', .mark '&']
  | .coalesce => [.mark '?', .mark '?']
  | .plus => [.mark '+']
  | .equal => [.mark '=', .mark '=', .mark '=']

/-- No operator ends the type of an assertion. -/
theorem Operator.ongoing (operator : Operator) : Ongoing operator.lexemes := by
  have hor : Ongoing [.mark '|'] := .mark (.mark rfl rfl) rfl (by decide)
  have hand : Ongoing [.mark '&'] := .mark (.mark rfl rfl) rfl (by decide)
  have hquestion : Ongoing [.mark '?'] := .mark (.mark rfl rfl) rfl (by decide)
  have hplus : Ongoing [.mark '+'] := .mark (.mark rfl rfl) rfl (by decide)
  have hequal : Ongoing [.mark '='] := .mark (.mark rfl rfl) rfl (by decide)
  cases operator with
  | or => exact hor.append hor
  | and => exact hand.append hand
  | coalesce => exact hquestion.append hquestion
  | plus => exact hplus
  | equal => exact hequal.append (hequal.append hequal)

/-- **How an expression goes on**: with an operator and an operand, or as a conditional. -/
inductive Continuation where
  | binary (operator : Operator) (right : Phrase)
  | conditional (accepted other : Phrase)

namespace Continuation

/-- A printed continuation. -/
def lexemes : Continuation → List Lexeme
  | .binary operator right => operator.lexemes ++ right.lexemes
  | .conditional accepted other =>
    .mark '?' :: (accepted.lexemes ++ .mark ':' :: other.lexemes)

/-- The calls of the operands, in their order. -/
def calls : Continuation → List Node
  | .binary _ right => right.tree.calls
  | .conditional accepted other => accepted.tree.calls ++ other.tree.calls

/-- The operands are what may stand between operators. -/
def OfOperands : Continuation → Prop
  | .binary _ right => right.IsOperand
  | .conditional accepted other => accepted.IsOperand ∧ other.IsOperand

/-- **Nothing of what goes on with an expression ends the type of an assertion.** -/
theorem ongoing {more : Continuation} (h : more.OfOperands) : Ongoing more.lexemes := by
  cases more with
  | binary operator right => exact operator.ongoing.append (.of_operand h)
  | conditional accepted other =>
    have hquestion : Ongoing [.mark '?'] := .mark (.mark rfl rfl) rfl (by decide)
    have hcolon : Ongoing [.mark ':'] := .mark (.mark rfl rfl) rfl (by decide)
    exact hquestion.append ((Ongoing.of_operand h.1).append (hcolon.append (.of_operand h.2)))

end Continuation

/-! ## Scripts -/

/-- **A type assertion that goes on**, as a script: an operand with an assertion, and an operator
or a conditional behind it. -/
structure AssertionScript where
  expression : Phrase
  word : Word
  type : TypeLexemes assertionEnds
  more : Continuation
  isOperand : expression.IsOperand
  isAssertion : word.text ∈ ["as", "satisfies"]
  ofOperands : more.OfOperands
  stands : StandAlone expression.lexemes
  fits : expression.nesting ≤ maxNesting

namespace AssertionScript

variable (s : AssertionScript)

/-- The lexemes of the statement, with the tree of the expression in front of the assertion. -/
def phrase : Phrase where
  lexemes := s.expression.lexemes ++ s.word.lexeme :: (s.type.lexemes ++ s.more.lexemes)
  tree := s.expression.tree
  nesting := s.expression.nesting

/-- The printed script: its tokens with single blanks between them. -/
def text : String := s.phrase.statementText

theorem ongoing : Ongoing (s.type.lexemes ++ s.more.lexemes) :=
  (Ongoing.of_type s.type).append (Continuation.ongoing s.ofOperands)

theorem readAs : ReadAs maxNesting s.phrase.lexemes (s.phrase.nesting ≤ maxNesting)
    s.phrase.tree.Alike := by
  have hfollows : s.expression.Before s.word.lexeme :=
    ⟨TokenKind.noConfusion, fun _ => TokenKind.noConfusion⟩
  exact (s.isOperand.continues.assertion hfollows s.isAssertion s.ongoing
    (List.append_ne_nil_of_left_ne_nil s.type.ne_nil _)).readAs (s.isOperand.opens_append _)
    (fun p hp => ⟨p, hp, rfl⟩) s.isOperand.nesting_pos _

/-- **An assertion takes everything up to the end of its statement.** The script is parsed to the
expression in front of the assertion, and of all calls those are found that are in there: the
calls behind the assertion are found as well only if there are none. -/
theorem exists_parse_expression (text : String) (htext : SameLayout s.text text) (name : String) :
    ∃ file, ScriptFile.parse name text = .ok file ∧ file.root.Shows (.script s.expression.tree)
      ∧ List.Forall₂ (fun t m => m.Shows t) s.expression.tree.calls file.root.calls
      ∧ (List.Forall₂ (fun t m => m.Shows t) (s.expression.tree.calls ++ s.more.calls)
          file.root.calls ↔ s.more.calls = []) := by
  have hstands : StandAlone s.phrase.lexemes := s.stands.append s.isOperand.ne_nil _
  have hscans : ∀ l ∈ s.phrase.lexemes, l.Scans :=
    List.forall_mem_append.mpr ⟨s.isOperand.balanced.scans,
      List.forall_mem_cons.mpr ⟨s.word.scans, s.ongoing.scans⟩⟩
  obtain ⟨file, hfile, hshown⟩ :=
    Phrase.exists_parse_of_readAs s.readAs hstands s.fits hscans htext name
  have hcalls : List.Forall₂ (fun t m => m.Shows t) s.expression.tree.calls file.root.calls :=
    Node.calls_script s.expression.tree ▸ hshown.forall₂_calls
  refine ⟨file, hfile, hshown, hcalls, fun hall => ?_, fun hnone => ?_⟩
  · -- there are as many calls as in the expression
    have hlength := hall.length_eq.trans hcalls.length_eq.symm
    rw [List.length_append] at hlength
    exact List.length_eq_zero_iff.mp (Nat.left_eq_add.mp hlength.symm)
  · rw [hnone, List.append_nil]
    exact hcalls

/-- The script `f() as T || g();`. -/
def callAsserted : AssertionScript where
  expression := (Phrase.single (.word "f") (.identifier "f")).call [] []
  word := ⟨"as", ⟨'a', ['s'], rfl, rfl, rfl⟩⟩
  type := ⟨[.word "T"], List.forall_mem_singleton.mpr ⟨'T', [], rfl, rfl, rfl⟩,
    List.cons_ne_nil _ _, .plain rfl (fun _ _ => TokenKind.noConfusion) .nil⟩
  more := .binary .or ((Phrase.single (.word "g") (.identifier "g")).call [] [])
  isOperand := .call [] (.name ⟨⟨"f", ⟨'f', [], rfl, rfl, rfl⟩⟩, by decide⟩) (List.forall_mem_nil _)
  isAssertion := by decide
  ofOperands :=
    .call [] (.name ⟨⟨"g", ⟨'g', [], rfl, rfl, rfl⟩⟩, by decide⟩) (List.forall_mem_nil _)
  stands := by
    rintro _ _ ⟨⟩
    exact ⟨TokenKind.noConfusion, by decide⟩
  fits := by decide

theorem exists_parse_callAsserted :
    SameLayout callAsserted.text "f() as T || g();"
      ∧ ∃ file, ScriptFile.parse "a.ts" "f() as T || g();" = .ok file
        ∧ file.root.Shows (.script callAsserted.expression.tree) := by
  have hlayout : SameLayout callAsserted.text "f() as T || g();" := by decide +kernel
  obtain ⟨file, hfile, hshown, _⟩ := callAsserted.exists_parse_expression _ hlayout "a.ts"
  exact ⟨hlayout, file, hfile, hshown⟩

/-- **An assertion in front of an operator loses the call behind it**, which is found without the
assertion. -/
theorem assertion_loses_call :
    (∃ file, ScriptFile.parse "a.ts" "x || f();" = .ok file ∧ file.root.calls.length = 1)
    ∧ ∃ file, ScriptFile.parse "a.ts" "x as T || f();" = .ok file ∧ file.root.calls = [] := by
  have hcount : ∀ (text : String) (n : Nat),
      (ScriptFile.parse "a.ts" text).toOption.map (·.root.calls.length) = some n →
      ∃ file, ScriptFile.parse "a.ts" text = .ok file ∧ file.root.calls.length = n := by
    intro text n h
    obtain ⟨file, hfile, hn⟩ := Option.map_eq_some_iff.mp h
    exact ⟨file, eq_ok_of_toOption hfile, hn⟩
  obtain ⟨file, hfile, hnone⟩ := hcount "x as T || f();" 0 (by decide +kernel)
  exact ⟨hcount "x || f();" 1 (by decide +kernel), file, hfile, List.length_eq_zero_iff.mp hnone⟩

end AssertionScript

end TypeTest
