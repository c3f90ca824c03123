import TypeTest.Proofs.Operators.ParenthesizedParameters
import TypeTest.Proofs.Operators.SingleStatement

/-!
# Parentheses in conditionals

A conditional is the list of its three operands, and its calls are theirs in order. What stands
between the question mark and the colon is any operand **but one in parentheses**: a
parenthesis whose partner stands before a colon is taken for the parameters of an arrow
function with a type of result, before anything inside it is looked at. There is no way back
from that. Either what is in the parentheses are no parameters, or the type of result goes on
to the end of the script, over the rest of the conditional and the semicolon, since nothing but
an arrow ends it; and then no arrow is there (`Parser.exists_arrowFunction_error`).

So a conditional is parsed if and only if its second operand is not in parentheses.
-/

namespace TypeTest

open TypeTest.Parser

/-- **A conditional**: an operand, and those it chooses from. -/
def Phrase.conditional (condition accepted other : Phrase) : Phrase :=
  ⟨condition.lexemes ++ .mark '?' :: (accepted.lexemes ++ .mark ':' :: other.lexemes),
    .bare (.operands [condition.tree, accepted.tree, other.tree]),
    max condition.nesting (max accepted.nesting other.nesting)⟩

namespace Parser

variable {levels start : Nat} {c : Cursor} {l : Lexeme} {ls rest : List Lexeme}
  {found : List Node}

/-! ## The marks of a conditional -/

/-- Nothing extends an expression in front of a question mark that an expression follows. -/
theorem postfixStep_question (hl : l.Opens) (hc : c.Faces (.mark '?' :: l :: rest)) (n : Node) :
    postfixStep (within levels) start n c = .ok (none, c) := by
  have hpoint : (c.kindAhead 1 == .punct '.') = false := by
    rw [hc.kindAhead_one]
    exact beq_false_of_ne (hl.kind_ne_punct (by decide))
  have hword : c.current.isWordOf ["as", "satisfies"] = false := hc.isWordOf_eq _
  unfold postfixStep
  rw [current_bind, kindAhead_bind, lineBreaks_bind, hpoint, hc.isPunct_mark, hc.isPunct_mark,
    hc.isPunct_mark, hc.isPunct_mark, hc.isPunct_mark, hc.isPunct_mark, hword]
  rfl

/-- **A question mark opens a conditional**, and the operand after it is read. -/
theorem operatorStep_question (hl : l.Opens) (hc : c.Faces (.mark '?' :: l :: rest))
    (conditionals : Nat) :
    operatorStep (within levels) ⟨found, conditionals⟩ c
      = (operand (within levels) >>= fun n => pure (some ⟨n :: found, conditionals + 1⟩))
          c.next := by
  have hsecond : (c.kindAhead 1 != .punct '?') = true := by
    rw [hc.kindAhead_one]
    exact bne_iff_ne.mpr (hl.kind_ne_punct (by decide))
  unfold operatorStep
  rw [current_bind, kindAhead_bind, hsecond, hc.isPunct_mark, hc.isPunct_mark]
  show (advance >>= fun _ => _ : Parser _) c = _
  rw [advance_bind]

/-- **A colon goes on with the conditional** that waits for it. -/
theorem operatorStep_colon (hc : c.Faces (.mark ':' :: rest)) (conditionals : Nat) :
    operatorStep (within levels) ⟨found, conditionals + 1⟩ c
      = (operand (within levels) >>= fun n => pure (some ⟨n :: found, conditionals⟩)) c.next := by
  unfold operatorStep
  rw [current_bind, kindAhead_bind, hc.isPunct_mark]
  show (advance >>= fun _ => _ : Parser _) c = _
  rw [advance_bind]
  rfl

end Parser

namespace Phrase

variable {condition accepted other inner : Phrase} {levels : Nat} {c : Cursor}
  {rest : List Lexeme}

/-! ## Conditionals that are read -/

/-- **A conditional is read** as the list of its operands if the second one is not in
parentheses. -/
theorem readAs_conditional (hcondition : condition.IsOperand) (haccepted : accepted.IsOperand)
    (hother : other.IsOperand) (hplain : accepted.isParenthesized = false) (levels : Nat) :
    ReadAs levels (conditional condition accepted other).lexemes
      ((conditional condition accepted other).nesting ≤ levels)
      (conditional condition accepted other).tree.Alike := by
  obtain ⟨second, seconds, hsecond, hopensSecond⟩ := haccepted.opens
  refine ⟨hcondition.opens_append _, fun p rest c hp hc => ?_⟩
  show Comes _ (max condition.nesting (max accepted.nesting other.nesting) ≤ levels) _ _
  rw [Nat.max_le, Nat.max_le]
  rw [conditional, List.append_assoc, List.cons_append, List.append_assoc, List.cons_append] at hc
  cases levels with
  | zero => exact .of_fail fun h => absurd h.1 (Nat.not_le_of_lt hcondition.nesting_pos)
  | succ levels =>
    have hbefore : other.Before (.mark p) := by
      refine other.before_mark ?_
      rintro rfl
      revert hp
      decide
    rw [within_succ_expression]
    unfold operation
    rw [here_bind]
    have hquestion : ∀ c : Cursor, c.Faces (.mark '?' :: (accepted.lexemes ++ .mark ':' ::
        (other.lexemes ++ .mark p :: rest))) →
        c.Faces (.mark '?' :: second :: (seconds ++ .mark ':' ::
          (other.lexemes ++ .mark p :: rest))) := by
      rw [hsecond]
      exact fun c hc => hc
    refine (hcondition.continues.comes_operand hcondition.opens (before_mark _ (by decide))
      (fun _ n c' hc' => postfixStep_question hopensSecond (hquestion c' hc') n) hc).bind
      (fun h => h.1) ?_
    intro n c₁ hn hc₁ hfits₁
    -- the operand after the question mark, then the one after the colon
    have hstep₁ : Comes (operatorStep (within levels) ⟨[n], 0⟩ c₁) (accepted.nesting ≤ levels + 1)
        (fun o => ∃ s, o = some s ∧ ∃ m, s = ⟨[m, n], 1⟩ ∧ accepted.tree.Alike m)
        (.mark ':' :: (other.lexemes ++ .mark p :: rest)) := by
      rw [operatorStep_question hopensSecond (hquestion c₁ hc₁)]
      refine (haccepted.continues.comes_operand haccepted.opens
        (before_of_ne_arrow hplain TokenKind.noConfusion)
        (fun _ m c' hc' => postfixStep_mark (by decide) hc' m) hc₁.next).bind id ?_
      exact fun m c' hm hc' hfits => .of_ok ⟨_, rfl, m, rfl, hm⟩ hc' hfits
    have hstep₂ : ∀ (m : Node) (c : Cursor), accepted.tree.Alike m →
        c.Faces (.mark ':' :: (other.lexemes ++ .mark p :: rest)) →
        Comes (operatorStep (within levels) ⟨[m, n], 1⟩ c) (other.nesting ≤ levels + 1)
          (fun o => ∃ s, o = some s ∧ ∃ k, s = ⟨[k, m, n], 0⟩ ∧ other.tree.Alike k)
          (.mark p :: rest) := by
      intro m c hm hc
      rw [operatorStep_colon hc]
      refine (hother.continues.comes_operand hother.opens hbefore
        (fun _ k c' hc' => postfixStep_stop hp hc' k) hc.next).bind id ?_
      exact fun k c' hk hc' hfits => .of_ok ⟨_, rfl, k, rfl, hk⟩ hc' hfits
    have hshorter : ∀ {c : Cursor} {l : Lexeme} {ls ms : List Lexeme},
        c.Faces (l :: (ls ++ ms)) → ms.length < c.remaining := by
      intro c l ls ms hc
      rw [hc.remaining_eq, List.length_cons, List.length_append]
      omega
    have hoperands : Comes (repeatWhile (operatorStep (within levels)) ⟨[n], 0⟩ c₁)
        (accepted.nesting ≤ levels + 1 ∧ other.nesting ≤ levels + 1)
        (fun s => ∃ m k, s = ⟨[k, m, n], 0⟩ ∧ accepted.tree.Alike m ∧ other.tree.Alike k)
        (.mark p :: rest) := by
      refine hstep₁.repeatWhile_step (hshorter hc₁) (fun h => h.1) ?_
      rintro _ c₂ ⟨m, rfl, hm⟩ hc₂ hfits₂
      refine (hstep₂ m c₂ hm hc₂).repeatWhile_step (hshorter hc₂) (fun h => h.2) ?_
      rintro _ c₃ ⟨k, rfl, hk⟩ hc₃ hfits₃
      rw [repeatWhile_of_none (operatorStep_stop hp hc₃ _)]
      exact .of_ok ⟨m, k, rfl, hm, hk⟩ hc₃ ⟨hfits₂, hfits₃⟩
    refine hoperands.bind (fun h => h.2) ?_
    rintro _ c₂ ⟨m, k, rfl, hm, hk⟩ hc₂ hfits
    exact .of_ok (.mk (.operands (.cons hn (.cons hm (.cons hk .nil)))) trivial) hc₂.store
      ⟨hfits₁, hfits⟩

/-! ## Conditionals that are refused -/

/-- The lexemes of an operand hold no arrow outside of brackets. -/
theorem IsOperand.level_ne_arrow (h : inner.IsOperand) :
    Level (fun l => l.kind ≠ .arrow) inner.lexemes :=
  h.level.imp fun l hl hk => by
    unfold Lexeme.Outer at hl
    rw [hk] at hl
    exact hl

/-- **A conditional whose second operand is in parentheses is refused.** -/
theorem exists_conditional_error (hcondition : condition.IsOperand) (hinner : inner.IsOperand)
    (hother : other.IsOperand)
    (hc : c.Faces ((conditional condition inner.parenthesized other).lexemes ++ [.mark ';'])) :
    ∃ fault, (within levels).expression c = .error fault := by
  cases levels with
  | zero => exact ⟨_, rfl⟩
  | succ levels =>
    rw [conditional, List.append_assoc, List.cons_append, List.append_assoc, List.cons_append] at hc
    have hlexemes : inner.parenthesized.lexemes = inBrackets '(' ')' inner.lexemes := rfl
    -- what stands behind the question mark opens with the parenthesis
    have hquestion : ∀ c : Cursor, c.Faces (.mark '?' :: (inner.parenthesized.lexemes ++
        .mark ':' :: (other.lexemes ++ [.mark ';']))) →
        c.Faces (.mark '?' :: .mark '(' :: (inner.lexemes ++ .mark ')' :: .mark ':' ::
          (other.lexemes ++ [.mark ';']))) := by
      intro c hc
      rwa [hlexemes, inBrackets_append] at hc
    have hopens : (Lexeme.mark '(').Opens := List.mem_cons_self
    have hstep : ∀ (c : Cursor) (n : Node), c.Faces (.mark '?' :: (inner.parenthesized.lexemes ++
        .mark ':' :: (other.lexemes ++ [.mark ';']))) →
        ∃ fault, operatorStep (within levels) ⟨[n], 0⟩ c = .error fault := by
      intro c n hc
      have hnext := hc.next
      have hparen := (hquestion c hc).next
      rw [hlexemes] at hnext
      have hrefused : ∃ fault, arrowFunction (within levels) c.next = .error fault :=
        exists_arrowFunction_error hinner
          (hother.level_ne_arrow.append (.plain rfl TokenKind.noConfusion .nil))
          (fun l hl => (scans_statement hother.balanced.scans l hl).kind_ne)
          (List.append_ne_nil_of_right_ne_nil _ (List.cons_ne_nil _ _)) hnext
      obtain ⟨fault, harrow⟩ := hrefused
      have hprimary : primary (within levels) c.next = .error fault := by
        rw [primary_eq hopens hparen, plainPrimary_eq_ite hinner.balanced hnext]
        exact harrow
      have hoperand : operand (within levels) c.next = .error fault := by
        unfold operand
        rw [bind_of_ok _ (skipWhile_of_false (atUnaryOperator_opens hopens hparen))]
        unfold postfixed
        rw [here_bind, bind_of_error _ hprimary]
      exact ⟨fault, by rw [operatorStep_question hopens (hquestion c hc), bind_of_error _ hoperand]⟩
    have hread : Comes (operand (within levels) c) (condition.nesting ≤ levels + 1)
        condition.tree.Alike _ :=
      hcondition.continues.comes_operand hcondition.opens (before_mark _ (by decide))
        (fun _ n c' hc' => postfixStep_question hopens (hquestion c' hc') n) hc
    rw [within_succ_expression]
    unfold operation
    rw [here_bind]
    by_cases hfits : condition.nesting ≤ levels + 1
    · obtain ⟨n, c₁, hrun, _, hc₁⟩ := hread.1 hfits
      obtain ⟨fault, herror⟩ := hstep c₁ n hc₁
      exact ⟨fault, by rw [bind_of_ok _ hrun, bind_of_error _ (repeatWhile_of_error herror)]⟩
    · obtain ⟨offset, herror⟩ := hread.2 hfits
      exact ⟨_, bind_of_error _ herror⟩

/-- An operand in parentheses is another operand and the parentheses. -/
theorem IsOperand.exists_parenthesized (h : inner.IsOperand)
    (hparen : inner.isParenthesized = true) :
    ∃ p : Phrase, p.IsOperand ∧ inner = p.parenthesized := by
  cases h with
  | parenthesized hinner => exact ⟨_, hinner, rfl⟩
  | @literal l form _ hform =>
    have hform' : ∀ n, form ≠ .parenthesized n := by
      unfold Lexeme.literal? at hform
      rintro n rfl
      split at hform <;> first | cases hform | skip
      split at hform <;> cases hform
    unfold isParenthesized at hparen
    split at hparen
    · exact absurd ‹_› (hform' _)
    · cases hparen
  | _ => cases hparen

/-- The lexemes of a conditional are balanced. -/
theorem balanced_conditional (hcondition : condition.IsOperand) (haccepted : accepted.IsOperand)
    (hother : other.IsOperand) : Balanced (conditional condition accepted other).lexemes :=
  hcondition.balanced.append ((Balanced.mark rfl rfl rfl).cons
    (haccepted.balanced.append ((Balanced.mark rfl rfl rfl).cons hother.balanced)))

end Phrase

/-! ## Scripts -/

/-- **A conditional as a script**: three operands, nested no deeper than expressions may be, the
first of which does not start with a brace, for that would open a block. -/
structure ConditionalScript where
  condition : Phrase
  accepted : Phrase
  other : Phrase
  isOperand : condition.IsOperand ∧ accepted.IsOperand ∧ other.IsOperand
  stands : StandAlone condition.lexemes
  fits : condition.nesting ≤ maxNesting ∧ accepted.nesting ≤ maxNesting
    ∧ other.nesting ≤ maxNesting

namespace ConditionalScript

variable (s : ConditionalScript)

/-- The conditional expression of the script. -/
def phrase : Phrase := .conditional s.condition s.accepted s.other

/-- The printed script: its tokens with single blanks between them. -/
def text : String := s.phrase.statementText

theorem calls_tree :
    (Node.script s.phrase.tree).calls
      = s.condition.tree.calls ++ s.accepted.tree.calls ++ s.other.tree.calls := by
  rw [Node.calls_script, phrase, Phrase.conditional, Node.calls_bare rfl]
  show [_, _, _].flatMap Node.calls = _
  rw [List.flatMap_cons, List.flatMap_cons, List.flatMap_singleton, List.append_assoc]

/-- **A conditional is parsed if and only if its second operand is not in parentheses**, and then
to the list of its operands, the calls of which come in their order. With parentheses the script
is refused, whatever stands in them and elsewhere. -/
theorem exists_parse_iff (text : String) (htext : SameLayout s.text text) (name : String) :
    ((∃ file, ScriptFile.parse name text = .ok file ∧ file.root.Shows (.script s.phrase.tree)
        ∧ List.Forall₂ (fun t m => m.Shows t)
          (s.condition.tree.calls ++ s.accepted.tree.calls ++ s.other.tree.calls)
          file.root.calls)
      ↔ s.accepted.isParenthesized = false)
    ∧ (s.accepted.isParenthesized = true → ∃ error, ScriptFile.parse name text = .error error) := by
  obtain ⟨hcondition, haccepted, hother⟩ := s.isOperand
  have hstands : StandAlone s.phrase.lexemes := s.stands.append hcondition.ne_nil _
  have hscans := (Phrase.balanced_conditional hcondition haccepted hother).scans
  have hrefused : s.accepted.isParenthesized = true →
      ∃ error, ScriptFile.parse name text = .error error := by
    intro hparen
    obtain ⟨inner, hinner, hp⟩ := haccepted.exists_parenthesized hparen
    refine Phrase.exists_parse_error (hcondition.opens_append _) hstands hscans
      (fun c hc => ?_) htext name
    rw [phrase, hp] at hc
    exact Phrase.exists_conditional_error hcondition hinner hother hc
  refine ⟨⟨fun ⟨file, hfile, _⟩ => ?_, fun hplain => ?_⟩, hrefused⟩
  · by_contra hparen
    obtain ⟨error, herror⟩ := hrefused (Bool.of_not_eq_false hparen)
    cases herror.symm.trans hfile
  · obtain ⟨file, hfile, hshown⟩ := Phrase.exists_parse_of_readAs
      (Phrase.readAs_conditional hcondition haccepted hother hplain maxNesting) hstands
      (Nat.max_le.mpr ⟨s.fits.1, Nat.max_le.mpr s.fits.2⟩) hscans htext name
    exact ⟨file, hfile, hshown, s.calls_tree ▸ hshown.forall₂_calls⟩

/-- The script `c ? f() : (g());`, which chooses from two calls. -/
def ofCalls : ConditionalScript where
  condition := .single (.word "c") (.identifier "c")
  accepted := (Phrase.single (.word "f") (.identifier "f")).call [] []
  other := ((Phrase.single (.word "g") (.identifier "g")).call [] []).parenthesized
  isOperand :=
    ⟨.name ⟨⟨"c", ⟨'c', [], rfl, rfl, rfl⟩⟩, by decide⟩,
      .call [] (.name ⟨⟨"f", ⟨'f', [], rfl, rfl, rfl⟩⟩, by decide⟩) (List.forall_mem_nil _),
      .parenthesized
        (.call [] (.name ⟨⟨"g", ⟨'g', [], rfl, rfl, rfl⟩⟩, by decide⟩) (List.forall_mem_nil _))⟩
  stands := by
    rintro _ _ ⟨⟩
    exact ⟨TokenKind.noConfusion, by decide⟩
  fits := by decide

theorem exists_parse_ofCalls :
    SameLayout ofCalls.text "c ? f() : (g());"
      ∧ ∃ file, ScriptFile.parse "a.ts" "c ? f() : (g());" = .ok file
        ∧ file.root.Shows (.script ofCalls.phrase.tree) := by
  have hlayout : SameLayout ofCalls.text "c ? f() : (g());" := by decide +kernel
  obtain ⟨file, hfile, hshown, _⟩ := (ofCalls.exists_parse_iff _ hlayout "a.ts").1.mpr rfl
  exact ⟨hlayout, file, hfile, hshown⟩

/-- **Parentheses around the second operand make a conditional that is refused**, where without
them its two calls are found. -/
theorem parenthesized_refused :
    (∃ file, ScriptFile.parse "a.ts" "c ? f() : g();" = .ok file
      ∧ file.statements.length = 1 ∧ file.root.calls.length = 2)
    ∧ ∃ error, ScriptFile.parse "a.ts" "c ? (f()) : g();" = .error error := by
  have hparsed : (ScriptFile.parse "a.ts" "c ? f() : g();").toOption.map
      (fun file => (file.statements.length, file.root.calls.length)) = some (1, 2) := by
    decide +kernel
  obtain ⟨file, hfile, hcounts⟩ := Option.map_eq_some_iff.mp hparsed
  obtain ⟨hone, htwo⟩ := Prod.mk.inj hcounts
  exact ⟨⟨file, eq_ok_of_toOption hfile, hone, htwo⟩,
    exists_error_of_toOption (by decide +kernel)⟩

end ConditionalScript

end TypeTest
