import TypeTest.Proofs.Parsing.CallRanges
import TypeTest.Session.Script

/-!
# Which calls are reported as undeclared

A session over scripts reports a call of a name that it takes for undeclared. What it takes
for a declaration is spread over the functions and the variables of the top level, which all
files share, and the names inside of one file. Here it is said in one place, by the nodes that
**introduce** a name and what they introduce it as (`ScriptProgram.Undeclared`). In the file of
the call every node counts that introduces the name, unless it introduces a function: a
function counts at the top level only, so one that is declared in a block, even in that of the
call itself, is passed over. At the top level of the other files everything counts but a
variable that has neither a type nor a value.

With this notion the reports are exact (`ScriptProgram.reported_iff_undeclared`): a call is
reported at its callee if and only if its callee is a name that is undeclared in this sense,
nothing else is reported, and nothing is reported twice. That a report stands for one call
only rests on the places of calls in a parsed text: no two callees have the same range.
-/

namespace TypeTest

/-! ## Nodes that introduce names -/

/-- **What a name is introduced as.** -/
inductive NameKind where
  | function
  /-- A variable with a type or a value. -/
  | value
  /-- A variable with neither. -/
  | bare
  | parameter
  deriving DecidableEq, Repr

namespace Node

/-- **That a node introduces a name**, and as what. -/
inductive IntroducesAs (n : Node) (name : String) : NameKind → Prop where
  | function {typeParameters : List String} {parameters : List Node}
    {returnType body : Option Node}
    (form : n.form = .functionDeclaration name typeParameters parameters returnType body) :
    n.IntroducesAs name .function
  | typed {type : Node} {value : Option Node}
    (form : n.form = .variableDeclaration name (some type) value) : n.IntroducesAs name .value
  | valued {value : Node} (form : n.form = .variableDeclaration name none (some value)) :
    n.IntroducesAs name .value
  | bare (form : n.form = .variableDeclaration name none none) : n.IntroducesAs name .bare
  | parameter {type value : Option Node} (form : n.form = .parameter name type value) :
    n.IntroducesAs name .parameter

/-- The functions among nodes are those that they introduce as functions. -/
theorem introducesAs_function_iff {n : Node} {name : String} :
    n.IntroducesAs name .function ↔ ∃ signature, n.function? = some (name, signature) := by
  constructor
  · rintro ⟨form⟩
    unfold function?
    rw [form]
    exact ⟨_, rfl⟩
  · rintro ⟨signature, h⟩
    unfold function? at h
    split at h
    · cases h
      exact .function ‹_›
    · cases h

/-- The variables that are looked up are those with a type or a value. -/
theorem introducesAs_value_iff {n : Node} {name : String} (i : Nat) :
    n.IntroducesAs name .value ↔ ∃ source, n.value? i = some (name, source) := by
  constructor
  · intro h
    unfold value?
    cases h with
    | typed form =>
      rw [form]
      exact ⟨_, rfl⟩
    | valued form =>
      rw [form]
      exact ⟨_, rfl⟩
  · rintro ⟨source, h⟩
    unfold value? at h
    split at h
    · cases h
      exact .typed ‹_›
    · cases h
      exact .valued ‹_›
    · cases h

/-- **The names inside of a script** are introduced as anything but functions. -/
theorem localName?_eq_some_iff {n : Node} {name : String} :
    n.localName? = some name ↔ ∃ kind, n.IntroducesAs name kind ∧ kind ≠ .function := by
  constructor
  · intro h
    unfold localName? at h
    split at h
    · rename_i found type value form
      cases h
      cases type with
      | some type => exact ⟨.value, .typed form, NameKind.noConfusion⟩
      | none =>
        cases value with
        | some value => exact ⟨.value, .valued form, NameKind.noConfusion⟩
        | none => exact ⟨.bare, .bare form, NameKind.noConfusion⟩
    · cases h
      exact ⟨.parameter, .parameter ‹_›, NameKind.noConfusion⟩
    · cases h
  · rintro ⟨kind, h, hkind⟩
    unfold localName?
    cases h with
    | function _ => exact absurd rfl hkind
    | _ form => rw [form]

/-- The plain name that is called, and the node of the call that has it. -/
theorem calledName?_eq_some_iff {n callee : Node} {name : String} :
    n.calledName? = some (callee, name) ↔
      (∃ types args, n.form = .call callee types args) ∧ callee.form = .identifier name := by
  constructor
  · intro h
    unfold calledName? at h
    split at h
    · split at h
      · cases h
        exact ⟨⟨_, _, ‹_›⟩, ‹_›⟩
      · cases h
    · cases h
  · rintro ⟨⟨types, args, hform⟩, hname⟩
    unfold calledName?
    rw [hform]
    dsimp only
    rw [hname]

/-- A call is one of the calls of a tree. -/
theorem mem_calls_of_form {n root callee : Node} {types args : List Node}
    (h : n ∈ root.descendants) (hform : n.form = .call callee types args) : n ∈ root.calls := by
  refine List.mem_filter.mpr ⟨h, ?_⟩
  unfold shape
  rw [hform]
  rfl

end Node

/-- A name is found among names and what they stand for if it is one of them. -/
theorem isSome_lookup_iff {β : Type} {entries : List (String × β)} {name : String} :
    (entries.lookup name).isSome = true ↔ ∃ b, (name, b) ∈ entries := by
  constructor
  · intro h
    obtain ⟨b, hb⟩ := Option.isSome_iff_exists.mp h
    obtain ⟨before, after, rfl, _⟩ := List.lookup_eq_some_iff.mp hb
    exact ⟨b, List.mem_append_right _ List.mem_cons_self⟩
  · rintro ⟨b, hmem⟩
    rw [← Option.ne_none_iff_isSome]
    intro h
    exact bne_iff_ne.mp (List.lookup_eq_none_iff.mp h _ hmem) rfl

/-- Keys of what is picked from a list that are places of what it is picked for stand in the
order of the list. -/
theorem sublist_map_filterMap {α β γ : Type} {f : α → Option β} {kept : α → Bool} {key : β → γ}
    {place : α → γ} (h : ∀ a b, f a = some b → kept a = true ∧ key b = place a) (l : List α) :
    ((l.filterMap f).map key).Sublist ((l.filter kept).map place) := by
  induction l with
  | nil => exact List.Sublist.slnil
  | cons a l ih =>
    cases hf : f a with
    | none =>
      rw [List.filterMap_cons_none hf]
      exact ih.trans ((List.sublist_cons_self a l).filter kept |>.map place)
    | some b =>
      obtain ⟨hkept, hkey⟩ := h a b hf
      rw [List.filterMap_cons_some hf, List.filter_cons_of_pos hkept, List.map_cons,
        List.map_cons, hkey]
      exact ih.cons_cons _

namespace ScriptProgram

/-! ## What counts as a declaration -/

/-- **The name counts as declared nowhere** when it is called in a file: it is not a word of
the language, nothing but functions has this name in the file, and at the top level of the
program neither a function nor a variable with a type or a value has it. -/
structure Undeclared (p : ScriptProgram) (file : ScriptFile) (name : String) : Prop where
  keyword : name ∉ calledKeywords
  inFile : ∀ n ∈ file.nodes, ∀ kind, n.IntroducesAs name kind → kind = .function
  topLevel : ∀ other ∈ p.files, ∀ n ∈ other.statements,
    ¬ n.IntroducesAs name .function ∧ ¬ n.IntroducesAs name .value

/-- **What is declared at the top level** of a program. -/
theorem isDeclared_iff {p : ScriptProgram} {name : String} :
    p.isDeclared name = true ↔ ∃ other ∈ p.files, ∃ n ∈ other.statements,
      n.IntroducesAs name .function ∨ n.IntroducesAs name .value := by
  rw [isDeclared_eq, functions, values]
  simp only [Bool.or_eq_true, isSome_lookup_iff, List.mem_flatMap, List.mem_filterMap]
  constructor
  · rintro (⟨signature, other, hother, n, hn, hf⟩ | ⟨source, ⟨other, i⟩, hother, n, hn, hv⟩)
    · exact ⟨other, hother, n, hn, .inl (Node.introducesAs_function_iff.mpr ⟨signature, hf⟩)⟩
    · exact ⟨other, List.fst_mem_of_mem_zipIdx hother, n, hn,
        .inr ((Node.introducesAs_value_iff i).mpr ⟨source, hv⟩)⟩
  · rintro ⟨other, hother, n, hn, hf | hv⟩
    · obtain ⟨signature, hf⟩ := Node.introducesAs_function_iff.mp hf
      exact .inl ⟨signature, other, hother, n, hn, hf⟩
    · obtain ⟨i, hi, rfl⟩ := List.getElem_of_mem hother
      obtain ⟨source, hv⟩ := (Node.introducesAs_value_iff i).mp hv
      exact .inr ⟨source, (_, i), List.mem_zipIdx_iff_getElem?.mpr (List.getElem?_eq_getElem hi),
        n, hn, hv⟩

/-- **A call is passed over** if its name is declared for it. -/
theorem undeclared_iff {p : ScriptProgram} {file : ScriptFile} {name : String} :
    (p.isDeclared name || (file.nodes.filterMap Node.localName?).contains name
      || calledKeywords.contains name) = false ↔ p.Undeclared file name := by
  rw [Bool.or_eq_false_iff, Bool.or_eq_false_iff]
  simp only [← Bool.not_eq_true, isDeclared_iff, List.contains_iff_mem, List.mem_filterMap,
    Node.localName?_eq_some_iff]
  constructor
  · rintro ⟨⟨htop, hfile⟩, hword⟩
    refine ⟨hword, fun n hn kind hk => ?_, fun other hother n hn => ?_⟩
    · by_contra hne
      exact hfile ⟨n, hn, kind, hk, hne⟩
    · exact not_or.mp fun h => htop ⟨other, hother, n, hn, h⟩
  · rintro ⟨hword, hfile, htop⟩
    refine ⟨⟨?_, ?_⟩, hword⟩
    · rintro ⟨other, hother, n, hn, h⟩
      exact not_or.mpr (htop other hother n hn) h
    · rintro ⟨n, hn, kind, hk, hne⟩
      exact hne (hfile n hn kind hk)

/-! ## The reports -/

/-- **The reports on a file** are those on its calls of undeclared names. -/
theorem mem_undeclaredCalls_iff {p : ScriptProgram} {file : ScriptFile} {d : Diagnostic} :
    d ∈ p.undeclaredCalls file ↔ ∃ call ∈ file.nodes, ∃ callee types args name,
      call.form = .call callee types args ∧ callee.form = .identifier name ∧
      p.Undeclared file name ∧ d = undeclaredName file.name callee name := by
  unfold undeclaredCalls
  simp only [List.mem_filterMap, Option.ite_none_left_eq_some, Bool.not_eq_true, undeclared_iff]
  constructor
  · rintro ⟨⟨callee, name⟩, ⟨call, hcall, hname⟩, hundeclared, hd⟩
    obtain ⟨⟨types, args, hform⟩, hname⟩ := Node.calledName?_eq_some_iff.mp hname
    exact ⟨call, hcall, callee, types, args, name, hform, hname, hundeclared,
      (Option.some.inj hd).symm⟩
  · rintro ⟨call, hcall, callee, types, args, name, hform, hname, hundeclared, rfl⟩
    exact ⟨(callee, name),
      ⟨call, hcall, Node.calledName?_eq_some_iff.mpr ⟨⟨types, args, hform⟩, hname⟩⟩,
      hundeclared, rfl⟩

/-- **Each report stands at another callee.** -/
theorem nodup_places_undeclaredCalls (p : ScriptProgram) (file : ScriptFile) :
    ((p.undeclaredCalls file).map fun d => (⟨d.start, d.length⟩ : TextRange)).Nodup := by
  refine (nodup_places_of_parseTree (fun _ => Node.separates_calleeRange) file.parsed).sublist ?_
  unfold undeclaredCalls
  dsimp only
  rw [List.filterMap_filterMap, file.nodes_eq]
  refine sublist_map_filterMap (fun call d hd => ?_) file.root.descendants
  obtain ⟨⟨callee, name⟩, hname, hd⟩ := Option.bind_eq_some_iff.mp hd
  obtain ⟨⟨types, args, hform⟩, _⟩ := Node.calledName?_eq_some_iff.mp hname
  refine ⟨(List.mem_filter.mp (Node.mem_calls_of_form call.mem_descendants_self hform)).2, ?_⟩
  rw [Node.calleeRange_of_form hform]
  obtain ⟨_, hd⟩ := Option.ite_none_left_eq_some.mp hd
  cases hd
  rfl

/-- The session reports on a file what its calls give rise to. -/
theorem session_diagnostics_of_file? {p : ScriptProgram} {name : String} {file : ScriptFile}
    {i : Nat} (h : p.file? name = some (file, i)) :
    p.session.diagnostics name = p.undeclaredCalls file := by
  show p.diagnostics name = _
  unfold diagnostics
  rw [h]

/-- A file that is found under a name has that name. -/
theorem name_of_file? {p : ScriptProgram} {name : String} {file : ScriptFile} {i : Nat}
    (h : p.file? name = some (file, i)) : file.name = name := by
  obtain ⟨s, hs, hfile⟩ := Option.map_eq_some_iff.mp h
  obtain rfl : s.script = file := congrArg Prod.fst hfile
  exact eq_of_beq (List.find?_some (p := fun s : NumberedScript => s.script.name == name) hs)

/-- **Calls of undeclared names, and nothing else, are reported.** The three parts say that a
call is reported at its callee if and only if the callee is a name that counts as declared
nowhere; that every report is that on the callee of such a call; and that no two reports stand
at the same place. -/
theorem reported_iff_undeclared {p : ScriptProgram} {name : String} {file : ScriptFile} {i : Nat}
    (h : p.file? name = some (file, i)) :
    (∀ call ∈ file.nodes, ∀ callee types args, call.form = .call callee types args →
      ((∃ d ∈ p.session.diagnostics name,
          d.code = "2304" ∧ callee.range = ⟨d.start, d.length⟩) ↔
        ∃ f, callee.form = .identifier f ∧ p.Undeclared file f)) ∧
    (∀ d ∈ p.session.diagnostics name, ∃ call ∈ file.nodes, ∃ callee types args f,
      call.form = .call callee types args ∧ callee.form = .identifier f ∧
      p.Undeclared file f ∧ d = undeclaredName name callee f) ∧
    ((p.session.diagnostics name).map fun d => (⟨d.start, d.length⟩ : TextRange)).Nodup := by
  rw [session_diagnostics_of_file? h]
  obtain rfl := name_of_file? h
  refine ⟨fun call hcall callee types args hform => ⟨?_, ?_⟩, ?_, ?_⟩
  · rintro ⟨d, hd, _, hrange⟩
    obtain ⟨other, hother, callee', types', args', f, hform', hname, hundeclared, rfl⟩ :=
      mem_undeclaredCalls_iff.mp hd
    -- two callees in one place are the callee of one call
    have hplace : call.calleeRange = other.calleeRange := by
      rw [Node.calleeRange_of_form hform, Node.calleeRange_of_form hform', hrange]
      rfl
    obtain rfl := List.inj_on_of_nodup_map
      (nodup_places_of_parseTree (fun _ => Node.separates_calleeRange) file.parsed)
      (Node.mem_calls_of_form (ScriptFile.mem_nodes.mp hcall) hform)
      (Node.mem_calls_of_form (ScriptFile.mem_nodes.mp hother) hform') hplace
    cases hform.symm.trans hform'
    exact ⟨f, hname, hundeclared⟩
  · rintro ⟨f, hname, hundeclared⟩
    exact ⟨_, mem_undeclaredCalls_iff.mpr
      ⟨call, hcall, callee, types, args, f, hform, hname, hundeclared, rfl⟩, rfl, rfl⟩
  · exact fun d hd => mem_undeclaredCalls_iff.mp hd
  · exact p.nodup_places_undeclaredCalls file

/-! ## A function in a block -/

/-- A program of one script, with a function that is declared and called in a block. -/
def blockProgram : ScriptProgram :=
  .ofReadable [("a.ts", "\x7b function f() \x7b\x7d f(); \x7d")]

theorem isSome_file?_blockProgram : (blockProgram.file? "a.ts").isSome = true := by
  decide +kernel

/-- The script of that program. -/
def blockFile : ScriptFile := ((blockProgram.file? "a.ts").get isSome_file?_blockProgram).1

theorem file?_blockProgram :
    ∃ i, blockProgram.file? "a.ts" = some (blockFile, i) :=
  ⟨_, (Option.some_get isSome_file?_blockProgram).symm⟩

/-- The function is the only name that is called. -/
theorem calledNames_blockFile :
    (blockFile.nodes.filterMap Node.calledName?).map Prod.snd = ["f"] := by
  decide +kernel

/-- The script has one report, which is on a call of the function. -/
theorem report_blockProgram :
    (blockProgram.session.diagnostics "a.ts").length = 1 ∧
      ∀ d ∈ blockProgram.session.diagnostics "a.ts", ∃ callee,
        callee.form = .identifier "f" ∧ d = undeclaredName "a.ts" callee "f" := by
  obtain ⟨i, hfile⟩ := file?_blockProgram
  refine ⟨by decide +kernel, fun d hd => ?_⟩
  obtain ⟨call, hcall, callee, types, args, f, hform, hname, _, hd⟩ :=
    (reported_iff_undeclared hfile).2.1 d hd
  have hf : f ∈ (blockFile.nodes.filterMap Node.calledName?).map Prod.snd :=
    List.mem_map.mpr ⟨(callee, f), List.mem_filterMap.mpr
      ⟨call, hcall, Node.calledName?_eq_some_iff.mpr ⟨⟨types, args, hform⟩, hname⟩⟩, rfl⟩
  rw [calledNames_blockFile] at hf
  obtain rfl := List.mem_singleton.mp hf
  exact ⟨callee, hname, hd⟩

/-- **A function that is declared in a block is reported as undeclared**, though its
declaration is in the script, and even in the block of the call. -/
theorem reported_although_declared_in_block :
    (∃ i, blockProgram.file? "a.ts" = some (blockFile, i)) ∧
      (∃ n ∈ blockFile.nodes, n.IntroducesAs "f" .function) ∧
      ∃ call ∈ blockFile.nodes, ∃ callee types args, call.form = .call callee types args ∧
        callee.form = .identifier "f" ∧ ∃ d ∈ blockProgram.session.diagnostics "a.ts",
          d.code = "2304" ∧ callee.range = ⟨d.start, d.length⟩ := by
  have hfunctions : (blockFile.nodes.filterMap Node.function?).map Prod.fst = ["f"] := by
    decide +kernel
  have hundeclared : (blockProgram.isDeclared "f"
      || (blockFile.nodes.filterMap Node.localName?).contains "f"
      || calledKeywords.contains "f") = false := by
    decide +kernel
  obtain ⟨i, hfile⟩ := file?_blockProgram
  refine ⟨⟨i, hfile⟩, ?_, ?_⟩
  · obtain ⟨⟨name, signature⟩, hmem, hname⟩ :=
      List.mem_map.mp (hfunctions ▸ List.mem_singleton_self "f")
    obtain rfl : name = "f" := hname
    obtain ⟨n, hn, hf⟩ := List.mem_filterMap.mp hmem
    exact ⟨n, hn, Node.introducesAs_function_iff.mpr ⟨signature, hf⟩⟩
  · obtain ⟨⟨callee, name⟩, hmem, hname⟩ :=
      List.mem_map.mp (calledNames_blockFile ▸ List.mem_singleton_self "f")
    obtain rfl : name = "f" := hname
    obtain ⟨call, hcall, hcalled⟩ := List.mem_filterMap.mp hmem
    obtain ⟨⟨types, args, hform⟩, hcallee⟩ := Node.calledName?_eq_some_iff.mp hcalled
    refine ⟨call, hcall, callee, types, args, hform, hcallee,
      undeclaredName blockFile.name callee "f", ?_, rfl, rfl⟩
    rw [session_diagnostics_of_file? hfile]
    exact mem_undeclaredCalls_iff.mpr ⟨call, hcall, callee, types, args, "f", hform, hcallee,
      undeclared_iff.mp hundeclared, rfl⟩

end ScriptProgram

end TypeTest
