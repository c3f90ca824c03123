import TypeTest.Proofs.AddedSources
import TypeTest.Proofs.EditorAgreement
import TypeTest.Proofs.Failure.Literal
import TypeTest.Proofs.Parsing.TreeInText
import TypeTest.Proofs.Received.ScannedText
import TypeTest.Proofs.TypeText.ArgumentList

/-!
# What is received is the type argument that was written

A call `wrap<X>()` of a function declared as `wrap<T>(): W<T>` has the type `W<X>`, and an
assertion on it tells to have received the first argument of that type. On this way the text
`X` is met by three readers: the parser takes it token by token, the substitution puts it in for
a word, and the reader of arguments cuts it out again character by character. The first two keep
it as it is. The third one gives it back **if and only if it is read through** by its
characters, as a plain type argument is; a comma in a comment ends it too early.
-/

namespace TypeTest

open TypeTest.TypeText

/-! ## Calls of `wrap` and `check` -/

/-- **A program that declares** `wrap<T>(): W<T>`, and `check()` with a return type that fails
with the message `m`. -/
structure ScriptProgram.Wraps (p : ScriptProgram) (m : QuotedMessage) : Prop where
  wrap : ∃ type, p.functions.lookup "wrap" = some ⟨["T"], some type⟩
    ∧ type.form = .typeText "W<T>"
  check : ∃ type, p.functions.lookup "check" = some ⟨[], some type⟩
    ∧ type.form = .typeText m.failingType

namespace Node

/-- The type argument of a call of `wrap` with a single one. -/
def wrappedType? (n : Node) : Option Node :=
  match n.form with
  | .call f [type] _ =>
    match f.form with
    | .identifier "wrap" => some type
    | _ => none
  | _ => none

/-- The object that `check` is called on. -/
def checkedObject? (n : Node) : Option Node :=
  match n.form with
  | .call f _ _ =>
    match f.form with
    | .propertyAccess object "check" => some object
    | _ => none
  | _ => none

/-- The name of a variable that a node declares. -/
def variableName? (n : Node) : Option String :=
  match n.form with
  | .variableDeclaration name _ _ => some name
  | _ => none

variable {n m : Node}

theorem exists_form_of_wrappedType? (h : n.wrappedType? = some m) :
    ∃ f args, n.form = .call f [m] args ∧ f.form = .identifier "wrap" := by
  unfold wrappedType? at h
  split at h
  · rename_i f type args hn
    split at h
    · rename_i hf
      cases h
      exact ⟨f, args, hn, hf⟩
    · cases h
  · cases h

theorem exists_form_of_checkedObject? (h : n.checkedObject? = some m) :
    ∃ f types args, n.form = .call f types args ∧ f.form = .propertyAccess m "check" := by
  unfold checkedObject? at h
  split at h
  · rename_i f types args hn
    split at h
    · rename_i hf
      cases h
      exact ⟨f, types, args, hn, hf⟩
    · cases h
  · cases h

end Node

/-- **An expression that stands for a value** in a script: the value itself, or a variable that
starts with it and is declared only once. -/
inductive ScriptFile.StandsFor (file : ScriptFile) (value : Node) : Node → Prop
  | itself : file.StandsFor value value
  | held {n d : Node} {name : String} : n.form = .identifier name →
    file.nodes.filter (·.variableName? == some name) = [d] →
    d.form = .variableDeclaration name none (some value) → file.StandsFor value n

/-! ## What is received -/

/-- **What `wrap` returns** is an instance with the type argument. -/
theorem TypeText.substitute_wrapped (argument : String) :
    substitute "W<T>" [("T", argument)] = "W" ++ "<" ++ argument ++ ">" := by
  have hmarked : markQuoted "W<T>".toList
      = [('W', false), ('<', false), ('T', false), ('>', false)] := by decide
  have hname : isNamePart 'W' = true ∧ isNamePart 'T' = true ∧ isNamePart '<' = false
      ∧ isNamePart '>' = false := by decide +kernel
  obtain ⟨hW, hT, hopen, hclose⟩ := hname
  refine String.toList_injective ?_
  rw [substitute, hmarked, String.toList_ofList]
  simp [substituteFrom, Bindings.resolve, hW, hT, hopen, hclose, List.lookup_cons]

/-- What is found under a name is what is there under it, if there is nothing else. -/
theorem lookup_eq_some_of_forall {β : Type} {l : List (String × β)} {key : String} {value : β}
    (hmem : (key, value) ∈ l) (h : ∀ other, (key, other) ∈ l → other = value) :
    l.lookup key = some value := by
  cases hl : l.lookup key with
  | none => exact absurd (List.lookup_eq_none_iff.mp hl _ hmem) (by simp)
  | some other => rw [h other (mem_of_lookup hl)]

namespace ScriptProgram

variable {p : ScriptProgram} {file : ScriptFile} {i : Nat} {m : QuotedMessage}
  {call value receiver type : Node} {argument : String}

/-- A call of `wrap` returns an instance with its type argument. -/
theorem signature?_wrap (hp : p.Wraps m) (hvalue : value.wrappedType? = some type)
    (htype : type.form = .typeText argument) (i : Nat) :
    p.signature? ⟨i, value⟩ = some ⟨"wrap", "W" ++ "<" ++ argument ++ ">"⟩ := by
  obtain ⟨f, args, hform, hf⟩ := Node.exists_form_of_wrappedType? hvalue
  obtain ⟨wrapped, hlookup, hwrapped⟩ := hp.wrap
  have hname : f.calleeName? = some "wrap" := by
    unfold Node.calleeName?
    rw [hf]
  have htext : type.typeText? = some argument := by
    unfold Node.typeText?
    rw [htype]
  have hbindings : bindings ["T"] [type] = [("T", argument)] := by
    show [("T", (type.typeText?).getD "unknown")] = _
    rw [htext]
    rfl
  rw [@signature?_of_lookup p ⟨i, value⟩ _ _ _ _ _ _ _ hform hname hlookup hwrapped, hbindings,
    substitute_wrapped]

/-- A call of `check` fails. -/
theorem verdict_check (hp : p.Wraps m) (hcall : call.checkedObject? = some receiver)
    (file : ScriptFile) (i : Nat) :
    (file.toSource i).verdict p.oracle ⟨i, call⟩
      = .fail ((file.toSource i).failureDetail p.oracle ⟨i, call⟩
          ⟨m.message, (Sentinel.simplifiedExpected m.message.toList).map String.ofList⟩) := by
  obtain ⟨f, types, args, hform, hf⟩ := Node.exists_form_of_checkedObject? hcall
  obtain ⟨failing, hlookup, hfailing⟩ := hp.check
  have hname : f.calleeName? = some "check" := by
    unfold Node.calleeName?
    rw [hf]
  have hsignature :=
    @signature?_of_lookup p ⟨i, call⟩ _ _ _ _ _ _ _ hform hname hlookup hfailing
  have hfailure : p.oracle.failure? ⟨i, call⟩
      = some ⟨m.message, (Sentinel.simplifiedExpected m.message.toList).map String.ofList⟩ := by
    show ((p.signature? ⟨i, call⟩).map CallSignature.returnType).bind Sentinel.decode = _
    rw [hsignature, bindings, List.zipIdx_nil, List.map_nil, substitute_nil]
    exact Sentinel.decode_failingType m
  rw [SourceFile.verdict, hfailure]

theorem variableName?_of_value? {n : Node} {name : String} {source : ValueSource}
    (h : n.value? i = some (name, source)) : n.variableName? = some name := by
  unfold Node.value? at h
  unfold Node.variableName?
  split at h
  · rename_i hn
    cases h
    rw [hn]
  · rename_i hn
    cases h
    rw [hn]
  · cases h

/-- A variable that is declared once is what it starts with. -/
theorem value?_of_filter_eq {d : Node} {name : String} (hfile : p.files[i]? = some file)
    (hfilter : file.nodes.filter (·.variableName? == some name) = [d])
    (hform : d.form = .variableDeclaration name none (some value)) :
    p.value? i name = some (.initialized ⟨i, value⟩) := by
  have hd : d ∈ file.nodes := (List.mem_filter.mp (hfilter ▸ List.mem_singleton_self d)).1
  have hvalue : d.value? i = some (name, .initialized ⟨i, value⟩) := by
    unfold Node.value?
    rw [hform]
  have hlocal : p.localValue? i name = some (.initialized ⟨i, value⟩) := by
    rw [localValue?_eq, hfile]
    refine lookup_eq_some_of_forall (List.mem_filterMap.mpr ⟨d, hd, hvalue⟩) fun other hother => ?_
    obtain ⟨e, he, hfound⟩ := List.mem_filterMap.mp hother
    have hmem : e ∈ file.nodes.filter (·.variableName? == some name) :=
      List.mem_filter.mpr ⟨he, beq_iff_eq.mpr (variableName?_of_value? hfound)⟩
    rw [hfilter] at hmem
    rw [List.mem_singleton.mp hmem, hvalue] at hfound
    exact (Prod.mk.inj (Option.some.inj hfound)).2.symm
  rw [value?, hlocal]
  rfl

/-- **The type of what stands for a call of `wrap`** is what the call returns. -/
theorem typeAt?_of_standsFor (hp : p.Wraps m) (hfile : p.files[i]? = some file)
    (hvalue : value.wrappedType? = some type) (htype : type.form = .typeText argument)
    (hreceiver : file.StandsFor value receiver) :
    p.typeAt? ⟨i, receiver⟩ = some ("W" ++ "<" ++ argument ++ ">") := by
  have hwrap : ∀ hops, p.typeWithin hops ⟨i, value⟩ = some ("W" ++ "<" ++ argument ++ ">") := by
    intro hops
    obtain ⟨f, args, hform, _⟩ := Node.exists_form_of_wrappedType? hvalue
    unfold typeWithin
    dsimp only
    rw [hform]
    dsimp only
    rw [signature?_wrap hp hvalue htype]
    rfl
  cases hreceiver with
  | itself => exact hwrap maxHops
  | held hn hfilter hform =>
    unfold typeAt? typeWithin
    dsimp only
    rw [hn]
    dsimp only
    rw [value?_of_filter_eq hfile hfilter hform]
    exact hwrap 31

/-- What stands for a value that is checked in a script shows that the value is in it. -/
theorem mem_nodes_of_standsFor (hcall : call ∈ file.nodes)
    (hobject : call.checkedObject? = some receiver) (hreceiver : file.StandsFor value receiver) :
    value ∈ file.nodes := by
  have hchild : ∀ {n c : Node}, n ∈ file.nodes → c ∈ n.children → c ∈ file.nodes :=
    fun hn hc => ScriptFile.mem_nodes.mpr (Node.mem_descendants_trans
      (Node.mem_descendants_of_mem_children hc) _ (ScriptFile.mem_nodes.mp hn))
  cases hreceiver with
  | itself =>
    obtain ⟨f, types, args, hform, hf⟩ := Node.exists_form_of_checkedObject? hobject
    have hcallee : f ∈ file.nodes := hchild hcall (by
      rw [Node.children, hform]
      exact List.mem_append_left _ List.mem_cons_self)
    refine hchild hcallee ?_
    rw [Node.children, hf]
    exact List.mem_singleton_self _
  | @held _ d _ _ hfilter hform =>
    have hd := (List.mem_filter.mp (hfilter ▸ List.mem_singleton_self d)).1
    refine hchild hd ?_
    rw [Node.children, hform]
    exact List.mem_singleton_self _

/-- What a call of `check` tells to have received is the first argument of the type of the
object it is called on. -/
theorem received?_check {type : String} (hcall : call.checkedObject? = some receiver)
    (file : ScriptFile) (htype : p.typeAt? ⟨i, receiver⟩ = some type) :
    (file.toSource i).received? p.oracle ⟨i, call⟩ = (arguments type)[0]? := by
  obtain ⟨f, types, args, hcall, hf⟩ := Node.exists_form_of_checkedObject? hcall
  have hobject : (file.toSource i).receiver? ⟨i, call⟩ = some ⟨i, receiver⟩ := by
    unfold SourceFile.receiver?
    rw [ScriptFile.shape_toSource, Node.shape, hcall]
    dsimp only [Form.shape, Shape.map]
    rw [ScriptFile.shape_toSource, Node.shape, hf]
    rfl
  unfold SourceFile.received?
  rw [hobject]
  show (p.typeAt? ⟨i, receiver⟩).bind (fun type => (arguments type)[0]?) = _
  rw [htype]
  rfl

/-- A type argument is not what stands for one that cannot be shown, which is no single type. -/
theorem ne_undisplayable {ts : List Token} {text : String} (h : type.IsArgument ts)
    (hts : tokenize text = .ok ts) (htype : type.form = .typeText argument) :
    argument ≠ undisplayableReceived := by
  rintro rfl
  obtain ⟨ws, e, hws, hargued, _⟩ := h.exists_tokens hts htype
  have hnot : (tokenize undisplayableReceived).toOption.map
      (fun vs => decide (Token.Argued 0 vs.dropLast)) = some false := by
    decide +kernel
  rw [hws, Except.toOption, Option.map_some, List.dropLast_concat] at hnot
  exact of_decide_eq_false (Option.some.inj hnot) hargued

/-- **What is received is the type argument that was written, exactly if that is read
through.** In a program with the declarations of `wrap` and `check`, a call of `check` on a call
of `wrap` with one type argument, or on a variable which starts with such a call and is declared
only once, fails. The type it tells to have received is the type argument as it stands in the
text if and only if a reader of characters goes through it as the scanner goes through its
tokens. It does if the type argument is plain. -/
theorem received_written_iff (hp : p.Wraps m) (hfile : p.files[i]? = some file)
    (hcall : call ∈ file.nodes) (hobject : call.checkedObject? = some receiver)
    (hreceiver : file.StandsFor value receiver) (hvalue : value.wrappedType? = some type)
    (htype : type.form = .typeText argument) :
    ∃ detail, (file.toSource i).verdict p.oracle ⟨i, call⟩ = .fail detail
      ∧ (detail.received = argument ↔ ReadThrough argument)
      ∧ (IsPlain argument → ReadThrough argument)
      ∧ ∃ before after, file.text.toList = before ++ (argument.toList ++ after)
        ∧ byteLength before = type.range.start
        ∧ byteLength argument.toList = type.range.length := by
  obtain ⟨ts, htokens, hfits⟩ := exists_fits_of_parseTree file.parsed
  obtain ⟨f, args, hform, _⟩ := Node.exists_form_of_wrappedType? hvalue
  have hargument : type.IsArgument ts := by
    refine (hfits value ?_).types f [type] args hform type List.mem_cons_self
    have hmem := ScriptFile.mem_nodes.mp (mem_nodes_of_standsFor hcall hobject hreceiver)
    refine List.mem_filter.mpr ⟨hmem, ?_⟩
    rw [Node.shape, hform]
    rfl
  refine ⟨_, verdict_check hp hobject file i, ?_, hargument.readThrough htokens htype,
    hargument.exists_append htokens htype⟩
  have hgeneric : ∀ c ∈ "W".toList, c ∉ Nesting.marks := List.forall_mem_singleton.mpr (by decide)
  rw [← getElem?_arguments_instance hgeneric (hargument.trim_eq htokens htype)]
  show ((file.toSource i).received? p.oracle ⟨i, call⟩).getD _ = argument ↔ _
  rw [received?_check hobject file (typeAt?_of_standsFor hp hfile hvalue htype hreceiver)]
  cases (arguments ("W" ++ "<" ++ argument ++ ">"))[0]? with
  | none =>
    constructor
    · exact fun he => absurd he.symm (ne_undisplayable hargument htokens htype)
    · intro he
      cases he
  | some found => exact ⟨congrArg some, Option.some.inj⟩

end ScriptProgram

/-! ## Programs -/

/-- The script that declares `wrap`, and `check` with the message `m`. -/
def wrapScript : ScriptFile :=
  (ScriptFile.parse "lib.d.ts" ("declare function wrap<T>(): W<T>; " ++
    "declare function check(): RTT_FAIL<\"m\">;")).toOption.get (by decide +kernel)

theorem Node.form_of_typeText? {n : Node} {text : String} (h : n.typeText? = some text) :
    n.form = .typeText text := by
  unfold typeText? at h
  split at h
  · rename_i hn
    rw [hn, Option.some.inj h]
  · cases h

/-- **Every program that starts with that script declares** `wrap` and `check`. -/
theorem wraps_cons (files : List ScriptFile) :
    (ScriptProgram.ofFiles (wrapScript :: files)).Wraps ⟨"m", '"', .inl rfl⟩ := by
  have hprefix : wrapScript.statements.filterMap Node.function?
      <+: (ScriptProgram.ofFiles (wrapScript :: files)).functions := by
    rw [ScriptProgram.functions, ScriptProgram.files_ofFiles]
    exact List.prefix_append _ _
  have hdeclared : ∀ own parameters text,
      (∃ f ∈ (wrapScript.statements.filterMap Node.function?).lookup own,
        f.typeParameters = parameters ∧ f.returnType.bind Node.typeText? = some text) →
      ∃ type, (ScriptProgram.ofFiles (wrapScript :: files)).functions.lookup own
          = some ⟨parameters, some type⟩ ∧ type.form = .typeText text := by
    rintro own parameters text ⟨⟨_, returned⟩, hf, rfl, hreturned⟩
    obtain ⟨type, rfl, htext⟩ := Option.bind_eq_some_iff.mp hreturned
    exact ⟨type, lookup_of_isPrefix hprefix hf, Node.form_of_typeText? htext⟩
  exact ⟨hdeclared _ _ _ (by decide +kernel), hdeclared _ _ _ (by decide +kernel)⟩

/-- A script that checks what `wrap` gives for a type with quotes, an arrow, brackets and a
comment, once as it is and once held by a variable. -/
def shownScript : ScriptFile :=
  (ScriptFile.parse "a.test.ts" ("describe('g', () => \x7b test('t', () => \x7b " ++
    "wrap<Map<'a,>', (x: A[]) => /* any */ B>>().check(); " ++
    "const v = wrap<Map<'a,>', (x: A[]) => /* any */ B>>(); v.check(); \x7d); \x7d);")).toOption.get
    (by decide +kernel)

/-- The script calls `check` on a call of `wrap` and on a variable that starts with one. -/
theorem shownScript_checks :
    (∃ call ∈ shownScript.nodes, (call.checkedObject?.bind Node.wrappedType?).bind Node.typeText?
      = some "Map<'a,>', (x: A[]) => /* any */ B>")
    ∧ (shownScript.nodes.filter (·.variableName? == some "v")).map
        (fun d => match d.form with
          | .variableDeclaration "v" none (some value) => value.wrappedType?.bind Node.typeText?
          | _ => none) = [some "Map<'a,>', (x: A[]) => /* any */ B>"]
    ∧ ∃ call ∈ shownScript.nodes, ∃ object ∈ call.checkedObject?,
        (match object.form with
          | .identifier "v" => true
          | _ => false) = true := by
  decide +kernel

namespace ScriptProgram

/-- The program of both scripts. -/
def shown : ScriptProgram := .ofFiles [wrapScript, shownScript]

/-- The type with quotes, an arrow, brackets and a comment is received as it was written. -/
theorem received_shown :
    (∃ call ∈ shownScript.nodes, ∃ value detail, call.checkedObject? = some value
      ∧ value.wrappedType?.isSome = true
      ∧ (shownScript.toSource 1).verdict shown.oracle ⟨1, call⟩ = .fail detail
      ∧ detail.received = "Map<'a,>', (x: A[]) => /* any */ B>")
    ∧ ∃ call ∈ shownScript.nodes, ∃ object detail, call.checkedObject? = some object
      ∧ object.form = .identifier "v"
      ∧ (shownScript.toSource 1).verdict shown.oracle ⟨1, call⟩ = .fail detail
      ∧ detail.received = "Map<'a,>', (x: A[]) => /* any */ B>" := by
  have hplain : IsPlain "Map<'a,>', (x: A[]) => /* any */ B>" := by decide +kernel
  have hfile : shown.files[1]? = some shownScript := rfl
  obtain ⟨hcalled, hheld, hnamed⟩ := shownScript_checks
  constructor
  · obtain ⟨call, hcall, hfound⟩ := hcalled
    obtain ⟨type, hfound, htext⟩ := Option.bind_eq_some_iff.mp hfound
    obtain ⟨value, hobject, hvalue⟩ := Option.bind_eq_some_iff.mp hfound
    obtain ⟨detail, hverdict, hreceived, hthrough, _⟩ := received_written_iff (wraps_cons _)
      hfile hcall hobject .itself hvalue (Node.form_of_typeText? htext)
    exact ⟨call, hcall, value, detail, hobject, Option.isSome_of_eq_some hvalue, hverdict,
      hreceived.mpr (hthrough hplain)⟩
  · obtain ⟨d, hfilter, hd⟩ := List.map_eq_singleton_iff.mp hheld
    split at hd
    · rename_i value hform
      obtain ⟨type, hvalue, htext⟩ := Option.bind_eq_some_iff.mp hd
      obtain ⟨call, hcall, object, hobject, hfound⟩ := hnamed
      split at hfound
      · rename_i hname
        obtain ⟨detail, hverdict, hreceived, hthrough, _⟩ := received_written_iff (wraps_cons _)
          hfile hcall hobject (.held hname hfilter hform) hvalue (Node.form_of_typeText? htext)
        exact ⟨call, hcall, object, detail, hobject, hname, hverdict,
          hreceived.mpr (hthrough hplain)⟩
      · cases hfound
    · cases hd

end ScriptProgram

/-- A script that checks what `wrap` gives for a type with a comma in a comment. -/
def cutScript : ScriptFile :=
  (ScriptFile.parse "a.test.ts" ("describe('g', () => \x7b test('t', () => \x7b " ++
    "wrap<A | /* b, c */ D>().check(); \x7d); \x7d);")).toOption.get (by decide +kernel)

namespace ScriptProgram

/-- The program of both scripts. -/
def cut : ScriptProgram := .ofFiles [wrapScript, cutScript]

/-- **A comma in a comment ends the type that is received.** -/
theorem received_cut :
    ∃ call ∈ cutScript.nodes,
      (call.checkedObject?.bind Node.wrappedType?).bind Node.typeText? = some "A | /* b, c */ D"
        ∧ ((cutScript.toSource 1).verdict cut.oracle ⟨1, call⟩).detail?.map FailureDetail.received
          = some "A | /* b" := by
  decide +kernel

end ScriptProgram

end TypeTest
