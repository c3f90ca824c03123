import TypeTest.Proofs.EditorAgreement
import TypeTest.Proofs.Failure.Parsed
import TypeTest.Proofs.WalkVisit

/-!
# A failure message is shown as it was written

The message in the declaration of the script with a failing test comes through scanner,
parser, substitution and decoder to the result of the test. The search for tests finds the
group and the test in it, its one assertion is the call, and what the call returns is the
failing type, whatever the type parameters are called and whatever the call gives for them.
-/

namespace TypeTest

open TypeTest.Parser

/-! ## What is shown of a message -/

/-- **The lines of a text**: it is cut at its line breaks and nowhere else. -/
structure IsCutIntoLines (text : String) (lines : List String) : Prop where
  ne_nil : lines ≠ []
  unbroken : ∀ line ∈ lines, '\n' ∉ line.toList
  joined : "\n".intercalate lines = text

theorem not_mem_of_mem_splitBreaks {cs line : List Char} (h : line ∈ splitBreaks cs) :
    '\n' ∉ line := by
  induction cs generalizing line with
  | nil =>
    rw [List.mem_singleton.mp h]
    exact List.not_mem_nil
  | cons c cs ih =>
    rw [splitBreaks] at h
    split at h
    · rcases List.mem_cons.mp h with rfl | h
      · exact List.not_mem_nil
      · exact ih h
    · rename_i hc
      have hne : '\n' ≠ c := fun he => hc (beq_of_eq he.symm)
      split at h
      · rw [List.mem_singleton.mp h]
        exact List.not_mem_cons_of_ne_of_not_mem hne List.not_mem_nil
      · rename_i part parts hs
        rw [hs] at ih
        rcases List.mem_cons.mp h with rfl | h
        · exact List.not_mem_cons_of_ne_of_not_mem hne (ih List.mem_cons_self)
        · exact ih (List.mem_cons_of_mem _ h)

theorem isCutIntoLines_splitBreaks (text : String) :
    IsCutIntoLines text ((splitBreaks text.toList).map String.ofList) where
  ne_nil := fun h => splitBreaks_ne_nil _ (List.map_eq_nil_iff.mp h)
  unbroken := by
    refine List.forall_mem_map.mpr fun line hline => ?_
    rw [String.toList_ofList]
    exact not_mem_of_mem_splitBreaks hline
  joined := intercalate_splitBreaks text

/-! ## Where the test is -/

namespace Node

/-- **A call that introduces a test or a group**: of a function of a name, with a description
and a callback. -/
def Introduces (n : Node) (own description : String) (callback : Node) : Prop :=
  ∃ f d, n.form = .call f [] [d, callback] ∧ f.form = .identifier own
    ∧ d.form = .stringLiteral description

end Node

/-- What is like a node that shows an introduction introduces the same. -/
theorem exists_introduces_of_like {own : Name} {description : StringLiteral}
    {callback : Expression} {m n : Node} (hm : (introduction own description callback).Shown m)
    (hn : Comparison.relaid.Like m n) :
    ∃ c c', n.Introduces own.text description.value c' ∧ callback.Shown c
      ∧ Comparison.relaid.Like c c' := by
  cases hm with
  | call hf hts hns =>
    cases hf
    cases hts
    obtain ⟨d, _, hd, hcs, rfl⟩ := List.forall₂_cons_left_iff.mp hns
    obtain ⟨c, _, hc, hnil, rfl⟩ := List.forall₂_cons_left_iff.mp hcs
    cases hnil
    cases hd
    obtain ⟨hlike, _⟩ := hn
    cases hlike with
    | call hf hts hns =>
      cases hts
      obtain ⟨d', _, hd, hcs, rfl⟩ := List.forall₂_cons_left_iff.mp hns
      obtain ⟨c', _, hc', hnil, rfl⟩ := List.forall₂_cons_left_iff.mp hcs
      cases hnil
      obtain ⟨hf, _⟩ := hf
      cases hf
      obtain ⟨hd, _⟩ := hd
      cases hd
      exact ⟨c, c', ⟨_, _, rfl, rfl, rfl⟩, hc, hc'⟩

section Like

variable {e : Expression} {head : ArrowHead} {m n : Node}

/-- What is like a statement is one. -/
theorem exists_statement_of_like (hm : e.Stated m) (hn : Comparison.relaid.Like m n) :
    ∃ k k', n.form = .expressionStatement k' ∧ e.Shown k ∧ Comparison.relaid.Like k k' := by
  cases hm with
  | mk hm =>
    obtain ⟨hlike, _⟩ := hn
    cases hlike with
    | expressionStatement hn => exact ⟨_, _, rfl, hm, hn⟩

/-- What is like an arrow function is a function with its body. -/
theorem exists_body_of_like (hm : (Expression.arrow head e).Shown m)
    (hn : Comparison.relaid.Like m n) :
    ∃ k k', n.shape = .functionLike (some k') ∧ e.Shown k ∧ Comparison.relaid.Like k k' := by
  cases hm with
  | arrow _ hm =>
    obtain ⟨hlike, _⟩ := hn
    cases hlike with
    | function _ _ hn => exact ⟨_, _, rfl, hm, hn⟩

/-- What is like a function of one statement is one. -/
theorem exists_block_of_like (hm : (Expression.arrowBlock head [e]).Shown m)
    (hn : Comparison.relaid.Like m n) :
    ∃ b k k', n.shape = .functionLike (some b) ∧ b.form = .block [k'] ∧ e.Stated k
      ∧ Comparison.relaid.Like k k' := by
  cases hm with
  | arrowBlock _ hm =>
    obtain ⟨hms⟩ := hm
    obtain ⟨k, _, hm, hnil, rfl⟩ := List.forall₂_cons_left_iff.mp hms
    cases hnil
    obtain ⟨hlike, _⟩ := hn
    cases hlike with
    | function _ _ hn =>
      obtain ⟨hlike, _⟩ := hn
      cases hlike with
      | block hns =>
        obtain ⟨k', _, hn, hnil, rfl⟩ := List.forall₂_cons_left_iff.mp hns
        cases hnil
        exact ⟨_, k, k', rfl, rfl, hm, hn⟩

end Like

namespace ScriptFile

variable {file : ScriptFile} {i : Nat} {oracle : TypeOracle NodeRef} {inside : Bool} {n : Node}
  {own description : String} {callback : Node}

section Form

variable {form : Form Node} (h : n.form = form) (hcall : form.shape.isCall = false)

include h hcall

/-- A node that is no call has the tests of its children. -/
theorem visit_of_not_isCall :
    (file.toSource i).visit oracle inside ⟨i, n⟩
      = form.children.flatMap fun c => (file.toSource i).visit oracle inside ⟨i, c⟩ := by
  have hsite : (file.toSource i).site? ⟨i, n⟩ = none := by
    unfold SourceFile.site?
    rw [shape_toSource, Node.shape, h]
    cases hs : form.shape with
    | call callee types arguments =>
      rw [hs] at hcall
      cases hcall
    | _ => rfl
  rw [SourceFile.visit_eq, hsite, ← h]
  show ((file.toSource i).children ⟨i, n⟩).flatMap _ = n.children.flatMap _
  rw [children_toSource, List.flatMap_map]

/-- A node of one child that is no call has the tests of the child. -/
theorem visit_of_only_child {k : Node} (hk : form.children = [k]) :
    (file.toSource i).visit oracle inside ⟨i, n⟩
      = (file.toSource i).visit oracle inside ⟨i, k⟩ := by
  rw [visit_of_not_isCall h hcall, hk, List.flatMap_singleton]

end Form

/-- What an introduction introduces depends on the name and on the callback. -/
theorem exists_site?_of_introduces (h : n.Introduces own description callback) :
    ∃ d, (file.toSource i).describe d = description
      ∧ (file.toSource i).site? ⟨i, n⟩
        = if groupNames.contains own && callback.shape.isFunctionLike then
            some (.group d ⟨i, callback⟩)
          else if testNames.contains own then some (.test d ⟨i, callback⟩)
          else none := by
  obtain ⟨f, d, hn, hf, hd⟩ := h
  have hcall : (file.toSource i).shape ⟨i, n⟩ = .call ⟨i, f⟩ [] [⟨i, d⟩, ⟨i, callback⟩] := by
    rw [shape_toSource, Node.shape, hn]
    rfl
  have hname : (file.toSource i).shape ⟨i, f⟩ = .identifier own := by
    rw [shape_toSource, Node.shape, hf]
    rfl
  have hstring : (file.toSource i).shape ⟨i, d⟩ = .stringLiteral description := by
    rw [shape_toSource, Node.shape, hd]
    rfl
  refine ⟨⟨i, d⟩, ?_, ?_⟩
  · unfold SourceFile.describe
    rw [hstring]
  · unfold SourceFile.site?
    rw [hcall]
    dsimp only
    rw [hname]
    dsimp only
    rw [shape_toSource file i callback, Shape.isFunctionLike_map]

/-- **A group holds the tests of the body of its callback.** -/
theorem visit_of_group (h : n.Introduces own description callback)
    (hown : groupNames.contains own = true) {b : Node}
    (hb : callback.shape = .functionLike (some b)) :
    (file.toSource i).visit oracle inside ⟨i, n⟩
      = [.group description ((file.toSource i).visit oracle true ⟨i, b⟩)] := by
  obtain ⟨d, hd, hsite⟩ := @exists_site?_of_introduces file i n _ _ _ h
  have hbody : ((file.toSource i).shape ⟨i, callback⟩).body? = some ⟨i, b⟩ := by
    rw [shape_toSource, hb]
    rfl
  rw [hown, hb] at hsite
  rw [SourceFile.visit_eq, hsite, if_pos (by rfl)]
  dsimp only
  rw [hd, hbody, Option.toList_some, List.flatMap_singleton]

/-- **A test in a group is a case**: the verdict is that on the calls in its body. -/
theorem visit_of_test (h : n.Introduces own description callback)
    (hgroup : groupNames.contains own = false) (hown : testNames.contains own = true) {b : Node}
    (hb : callback.shape = .functionLike (some b)) :
    (file.toSource i).visit oracle true ⟨i, n⟩
      = [.case ⟨description, (file.toSource i).firstFailure oracle (b.calls.map (⟨i, ·⟩))⟩] := by
  obtain ⟨d, hd, hsite⟩ := @exists_site?_of_introduces file i n _ _ _ h
  have hassertions : (file.toSource i).assertions ⟨i, callback⟩ = b.calls.map (⟨i, ·⟩) := by
    have hshape : (file.toSource i).shape ⟨i, callback⟩ = .functionLike (some ⟨i, b⟩) := by
      rw [shape_toSource, hb]
      rfl
    unfold SourceFile.assertions
    rw [hshape]
    exact callsWithin_toSource file i b
  rw [hgroup, Bool.false_and, if_neg Bool.false_ne_true, hown, if_pos rfl] at hsite
  rw [SourceFile.visit_eq, hsite]
  dsimp only
  rw [if_pos rfl, SourceFile.testCase, hd, hassertions]

end ScriptFile

/-! ## The search -/

/-- The program of one script that is parsed. -/
theorem ScriptProgram.ofSources_of_parse {name text : String} {file : ScriptFile}
    (h : ScriptFile.parse name text = .ok file) :
    ofSources [(name, text)] = .ok (ofFiles [file]) := by
  rw [ofSources, withSources, addSource_of_ok h]
  rfl

/-- In what is like a node that shows a type there are no calls. -/
theorem calls_eq_nil_of_like {stops : List Char} {type : TypeLexemes stops} {m n : Node}
    (hm : type.Shown m) (hn : Comparison.relaid.Like m n) : n.calls = [] := by
  obtain ⟨hlike, _⟩ := hn
  cases hm
  cases hlike
  rw [Node.calls_eq]
  rfl

theorem flatMap_calls_eq_nil {types : List TypeArgument} {ms ns : List Node}
    (hm : List.Forall₂ TypeLexemes.Shown types ms)
    (hn : List.Forall₂ Comparison.relaid.Like ms ns) : ns.flatMap Node.calls = [] := by
  induction hm generalizing ns with
  | nil =>
    cases hn
    rfl
  | cons hm _ ih =>
    cases hn with
    | cons hn hns =>
      rw [List.flatMap_cons, calls_eq_nil_of_like hm hn, ih hns]
      rfl

namespace FailingScript

variable {s : FailingScript} {m n : Node}

/-- **The call is the only one in it**: what is like a node that shows it calls the function
and has no other call below it. -/
theorem exists_call_of_like (hm : s.call.Shown m) (hn : Comparison.relaid.Like m n) :
    (∃ f types, n.form = .call f types [] ∧ f.form = .identifier "fails") ∧ n.calls = [n] := by
  cases hm with
  | call hf hts hns =>
    cases hf
    cases hns
    obtain ⟨hlike, _⟩ := hn
    cases hlike with
    | call hf' hts' hns' =>
      cases hns'
      obtain ⟨hf', _⟩ := hf'
      cases hf'
      refine ⟨⟨_, _, rfl, rfl⟩, ?_⟩
      rw [Node.calls_eq, Node.children, Node.form, Form.children, List.append_nil,
        List.flatMap_cons, flatMap_calls_eq_nil hts hts', List.append_nil, Node.calls_eq]
      rfl

/-- **The test is found in its group**, with the call for its one assertion. -/
theorem exists_visit_of_like (hm : s.groupCall.Stated m) (hn : Comparison.relaid.Like m n) :
    ∃ call f types, call.form = .call f types [] ∧ f.form = .identifier "fails"
      ∧ ∀ (file : ScriptFile) (i : Nat) (oracle : TypeOracle NodeRef),
          (file.toSource i).visit oracle false ⟨i, n⟩
            = [.group "g" [.case ⟨"t", (file.toSource i).firstFailure oracle [⟨i, call⟩]⟩]] := by
  obtain ⟨_, group, hstated, hm, hn⟩ := exists_statement_of_like hm hn
  obtain ⟨_, _, hgroup, hm, hn⟩ := exists_introduces_of_like hm hn
  obtain ⟨block, _, statement, hcallback, hblock, hm, hn⟩ := exists_block_of_like hm hn
  obtain ⟨_, test, hstatement, hm, hn⟩ := exists_statement_of_like hm hn
  obtain ⟨_, _, htest, hm, hn⟩ := exists_introduces_of_like hm hn
  obtain ⟨_, call, hbody, hm, hn⟩ := exists_body_of_like hm hn
  obtain ⟨⟨f, types, hcall, hf⟩, hcalls⟩ := exists_call_of_like hm hn
  refine ⟨call, f, types, hcall, hf, fun file i oracle => ?_⟩
  -- from the statement to the group, from its block to the test, and to the call in it
  rw [ScriptFile.visit_of_only_child hstated rfl rfl,
    ScriptFile.visit_of_group hgroup rfl hcallback,
    ScriptFile.visit_of_only_child hblock rfl rfl,
    ScriptFile.visit_of_only_child hstatement rfl rfl,
    ScriptFile.visit_of_test htest rfl rfl hbody, hcalls]
  rfl

variable (s : FailingScript)

/-- **The type parameters do not stand for the failing type**, whatever the call gives for
them. -/
theorem substitute_bindings (types : List Node) :
    TypeText.substitute s.failingType
      (ScriptProgram.bindings (s.parameters.map Word.text) types) = s.failingType := by
  refine TypeText.substitute_failingType _ fun b hb => ?_
  obtain ⟨⟨parameter, j⟩, hmem, rfl⟩ := List.mem_map.mp hb
  obtain ⟨w, hw, rfl⟩ := List.mem_map.mp (List.fst_mem_of_mem_zipIdx hmem)
  refine ⟨fun he => ?_, s.free w hw⟩
  have hempty : w.text = "" := he
  obtain ⟨c, cs, hcs, _⟩ := w.scans
  rw [Lexeme.word, hempty] at hcs
  cases hcs

/-- **A call that returns the failing type fails**, with the message for its detail. -/
theorem firstFailure_of_signature? {p : ScriptProgram} {call : NodeRef} {own : String}
    (h : p.signature? call = some ⟨own, s.failingType⟩) (file : SourceFile NodeRef) :
    file.firstFailure p.oracle [call]
      = .fail (file.failureDetail p.oracle call
          ⟨s.message, (Sentinel.simplifiedExpected s.message.toList).map String.ofList⟩) := by
  have hfailure : p.oracle.failure? call
      = some ⟨s.message, (Sentinel.simplifiedExpected s.message.toList).map String.ofList⟩ := by
    show ((p.signature? call).map CallSignature.returnType).bind Sentinel.decode = _
    rw [h]
    exact Sentinel.decode_failingType _
  unfold SourceFile.firstFailure
  rw [List.map_singleton, SourceFile.verdict, hfailure]
  rfl

section Parsed

variable {file : ScriptFile} {d type n call f : Node} {types : List Node}

/-- **The function that fails is declared** by the first statement. -/
theorem lookup_functions (hroot : file.root.form = .sourceFile [d, n])
    (hd : d.form
      = .functionDeclaration "fails" (s.parameters.map Word.text) [] (some type) none) :
    (ScriptProgram.ofFiles [file]).functions.lookup "fails"
      = some ⟨s.parameters.map Word.text, some type⟩ := by
  have hstatements : file.statements = [d, n] := congrArg Form.children hroot
  have hfunction : d.function? = some ("fails", ⟨s.parameters.map Word.text, some type⟩) := by
    unfold Node.function?
    rw [hd]
  rw [ScriptProgram.functions, ScriptProgram.files_ofFiles, List.flatMap_singleton, hstatements,
    List.filterMap_cons_some hfunction, List.lookup_cons_self]

/-- **The call returns the failing type.** -/
theorem signature?_call {p : ScriptProgram}
    (hp : p.functions.lookup "fails" = some ⟨s.parameters.map Word.text, some type⟩)
    (htype : type.form = .typeText s.failingType) (hcall : call.form = .call f types [])
    (hf : f.form = .identifier "fails") (i : Nat) :
    p.signature? ⟨i, call⟩ = some ⟨"fails", s.failingType⟩ := by
  have hname : f.calleeName? = some "fails" := by
    unfold Node.calleeName?
    rw [hf]
  have hsignature := @ScriptProgram.signature?_of_lookup p ⟨i, call⟩ _ _ _ _ _ _ _ hcall hname hp
    htype
  rw [hsignature, s.substitute_bindings]

/-- The declaration holds no tests, so the search finds those of the statement after it. -/
theorem visit_root (hroot : file.root.form = .sourceFile [d, n])
    (hd : d.form
      = .functionDeclaration "fails" (s.parameters.map Word.text) [] (some type) none)
    (htype : type.form = .typeText s.failingType) (i : Nat) (oracle : TypeOracle NodeRef) :
    (file.toSource i).visit oracle false (file.toSource i).root
      = (file.toSource i).visit oracle false ⟨i, n⟩ := by
  have hnone : (file.toSource i).visit oracle false ⟨i, d⟩ = [] := by
    rw [ScriptFile.visit_of_only_child hd rfl rfl, ScriptFile.visit_of_not_isCall htype rfl]
    rfl
  show (file.toSource i).visit oracle false ⟨i, file.root⟩ = _
  rw [ScriptFile.visit_of_not_isCall hroot rfl, Form.children, List.flatMap_cons, hnone,
    List.flatMap_singleton, List.nil_append]

end Parsed

/-- **A failure message is shown as it was written.** The script with a failing test is read,
whatever the message, its quotes, the type parameters and the type arguments are, if these do not
end in an equals sign. The search finds one group with one test in it, which fails; the lines of
its message are those of the message that was written, and the expected type that it shows is the
one the message has between backticks. -/
theorem exists_walk (h : s.ClosesArguments) (name : String) :
    ∃ p file group detail, ScriptProgram.ofSources [(name, s.text)] = .ok p
      ∧ p.toHost.files = [file] ∧ file.walk p.toHost.oracle = [group]
      ∧ group.description = "g" ∧ group.status = .failed
      ∧ group.children = [.case ⟨"t", .fail detail⟩]
      ∧ IsCutIntoLines s.message detail.message
      ∧ BetweenBackticks s.message.toList (detail.simplifiedExpected.map String.toList) := by
  obtain ⟨file, d, type, n, m, hparse, hroot, hd, htype, hm, hn⟩ := s.exists_parse h name
  obtain ⟨call, f, types, hcall, hf, hvisit⟩ := exists_visit_of_like hm hn
  have hsignature := s.signature?_call (s.lookup_functions hroot hd) htype hcall hf 0
  generalize hp : ScriptProgram.ofFiles [file] = p at hsignature
  have hwalk : ((file.toSource 0).walk p.oracle).map TestGroup.toNode
      = [.group "g" [.case ⟨"t", (file.toSource 0).firstFailure p.oracle [⟨0, call⟩]⟩]] := by
    rw [SourceFile.map_toNode_walk_eq, s.visit_root hroot hd htype, hvisit]
  rw [s.firstFailure_of_signature? hsignature] at hwalk
  obtain ⟨group, _, hgroups, hgroup, hnil⟩ := List.map_eq_cons_iff.mp hwalk
  obtain rfl := List.map_eq_nil_iff.mp hnil
  obtain ⟨hdescription, hchildren⟩ := TestNode.group.inj hgroup
  subst hp
  refine ⟨_, file.toSource 0, group, _, ScriptProgram.ofSources_of_parse hparse, rfl, hgroups,
    hdescription, ?_, hchildren, isCutIntoLines_splitBreaks _, ?_⟩
  · rw [TestGroup.status, hgroup]
    rfl
  · have hshown := Sentinel.betweenBackticks_simplifiedExpected s.message.toList
    have htoList : String.toList ∘ String.ofList = id := funext fun _ => String.toList_ofList
    show BetweenBackticks _ (((Sentinel.simplifiedExpected _).map String.ofList).map _)
    rw [Option.map_map, htoList, Option.map_id]
    exact hshown

/-- A script whose message has quotes, backslashes and backticks, with two type parameters and two
type arguments. -/
def quoting : FailingScript where
  message := "say \"`no`\" to \\"
  quote := '"'
  isQuote := .inl rfl
  parameters := [⟨"A", by decide +kernel⟩, ⟨"B", by decide +kernel⟩]
  free := by decide
  arguments :=
    [⟨[.word "A"], by decide +kernel, List.cons_ne_nil _ _, .beside rfl (by decide) .nil⟩,
      ⟨[.mark '(', .mark ')', .arrow, .word "B"], by decide +kernel, List.cons_ne_nil _ _,
        @Bracketed.nested _ '(' ')' [] _ (by decide) .nil
          (.beside rfl (by decide) (.beside rfl (by decide) .nil))⟩]

/-- The message with the quotes and backslashes is shown. -/
theorem walk_quoting :
    quoting.ClosesArguments
      ∧ quoting.text
        = "declare function fails<A, B>(): RTT_FAIL<\"say \\\"`no`\\\" to \\\\\">;\n"
          ++ "describeType(\"g\", () => \x7b testType(\"t\", () => fails<A, ( ) => B>()); \x7d);"
      ∧ ∃ p file group detail, ScriptProgram.ofSources [("a.ts", quoting.text)] = .ok p
        ∧ p.toHost.files = [file] ∧ file.walk p.toHost.oracle = [group]
        ∧ group.children = [.case ⟨"t", .fail detail⟩]
        ∧ IsCutIntoLines "say \"`no`\" to \\" detail.message := by
  have hcloses : quoting.ClosesArguments := by
    unfold ClosesArguments
    decide
  obtain ⟨p, file, group, detail, hp, hfile, hgroup, _, _, hchildren, hlines, _⟩ :=
    exists_walk quoting hcloses "a.ts"
  exact ⟨hcloses, by decide +kernel, p, file, group, detail, hp, hfile, hgroup, hchildren, hlines⟩

/-- A script whose type argument ends in an equals sign. -/
def unclosed : FailingScript where
  message := "no"
  quote := '"'
  isQuote := .inl rfl
  parameters := []
  free := nofun
  arguments := [⟨[.word "A", .mark '='], by decide +kernel, List.cons_ne_nil _ _,
    .beside rfl (by decide) (.beside rfl (by decide) .nil)⟩]

/-- **An equals sign at the end of the type arguments makes an arrow of the bracket**, and the
script is refused. -/
theorem refused_unclosed :
    unclosed.text
        = "declare function fails(): RTT_FAIL<\"no\">;\n"
          ++ "describeType(\"g\", () => \x7b testType(\"t\", () => fails<A =>()); \x7d);"
      ∧ ScriptProgram.ofSources [("a.ts", unclosed.text)]
        = .error (.malformed (.unexpectedToken ")" "expression") (some "a.ts") ⟨1, 57⟩) :=
  ⟨by decide +kernel, eq_error_of_test (by decide +kernel)⟩

end FailingScript

end TypeTest
