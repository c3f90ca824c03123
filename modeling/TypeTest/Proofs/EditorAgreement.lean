import TypeTest.Proofs.Parsing.CallRanges
import TypeTest.Proofs.ReachedAssertions
import TypeTest.Proofs.SortedDiagnostics
import TypeTest.Session.Script

/-!
# The editor and the run agree

The run of the tests goes from groups to tests to assertions; the editor takes every call
of a file. They agree on scripts: what fails a case is one of the calls (`ShowsChildren`
holds of scripts), the message that was cut into lines is put together again, and the
editor drops nothing when it brings its diagnostics in order without repetitions, since
no two calls of a parsed script have the same range.
-/

namespace TypeTest

/-! ## Scripts as files of a host -/

/-- What the shape of a form shows are its parts. -/
theorem Form.mem_children_of_mem_parts {α : Type} {form : Form α} {m : α}
    (h : m ∈ form.shape.parts) : m ∈ form.children := by
  cases form with
  | function parameters returnType body =>
    exact List.mem_append_right _ h
  | functionDeclaration name typeParameters parameters returnType body =>
    exact List.mem_append_right _ h
  | call | propertyAccess | arrayLiteral | objectLiteral | propertyAssignment => exact h
  | _ => exact absurd h List.not_mem_nil

/-- The assertions of a test, as nodes of its script. -/
def Node.assertions (callback : Node) : List Node :=
  match callback.shape with
  | .functionLike (some body) => body.calls
  | .arrayLiteral elements => elements.filter (·.shape.isCall)
  | .objectLiteral properties =>
    properties.filterMap fun p =>
      match p.shape with
      | .propertyAssignment _ initializer =>
        if initializer.shape.isCall then some initializer else none
      | _ => none
  | _ => []

namespace ScriptFile

variable (file : ScriptFile) (i : Nat)

/-- **The shapes of a script show nothing but children.** -/
theorem showsChildren : (file.toSource i).ShowsChildren := by
  intro n m hm
  show m ∈ childrenIn i n
  have hm : m ∈ (shapeIn i n).parts := hm
  unfold shapeIn at hm
  unfold childrenIn
  split at hm
  · rename_i hf
    rw [Shape.parts_map] at hm
    obtain ⟨k, hk, rfl⟩ := List.mem_map.mp hm
    rw [if_pos hf]
    exact List.mem_map_of_mem (Form.mem_children_of_mem_parts hk)
  · exact absurd hm List.not_mem_nil

theorem children_toSource (n : Node) :
    (file.toSource i).children ⟨i, n⟩ = n.children.map (⟨i, ·⟩) :=
  if_pos rfl

theorem shape_toSource (n : Node) : (file.toSource i).shape ⟨i, n⟩ = n.shape.map (⟨i, ·⟩) :=
  if_pos rfl

theorem descendants_toSource (n : Node) :
    (file.toSource i).descendants ⟨i, n⟩ = n.descendants.map (⟨i, ·⟩) := by
  induction n using Node.descendants.induct with
  | _ n ih =>
    rw [SourceFile.descendants_eq, Node.descendants_eq, children_toSource, List.map_cons,
      List.flatMap_map, List.map_flatMap]
    refine congrArg (_ :: ·) ?_
    rw [List.flatMap_def, List.flatMap_def]
    exact congrArg List.flatten (List.map_congr_left fun c hc => ih ⟨c, hc⟩)

theorem callsWithin_toSource (n : Node) :
    (file.toSource i).callsWithin ⟨i, n⟩ = n.calls.map (⟨i, ·⟩) := by
  rw [SourceFile.callsWithin_eq, descendants_toSource, Node.calls, List.filter_map]
  refine congrArg (List.map _) (List.filter_congr fun m _ => ?_)
  show ((file.toSource i).shape ⟨i, m⟩).isCall = m.shape.isCall
  rw [shape_toSource, Shape.isCall_map]

/-- **The assertions of a test are those below its callback**, seen from its file. -/
theorem assertions_toSource (callback : NodeRef) :
    (file.toSource i).assertions callback
      = if callback.file = i then callback.node.assertions.map (⟨i, ·⟩) else [] := by
  have hcall : ∀ n : Node, ((file.toSource i).shape ⟨i, n⟩).isCall = n.shape.isCall := by
    intro n
    rw [shape_toSource, Shape.isCall_map]
  split
  · rename_i hi
    obtain ⟨_, n⟩ := callback
    obtain rfl : _ = i := hi
    unfold SourceFile.assertions Node.assertions
    rw [shape_toSource]
    cases n.shape with
    | functionLike body =>
      cases body with
      | none => rfl
      | some body => exact callsWithin_toSource file _ body
    | arrayLiteral elements =>
      show (elements.map _).filter _ = _
      rw [List.filter_map]
      exact congrArg (List.map _) (List.filter_congr fun m _ => hcall m)
    | objectLiteral properties =>
      show (properties.map _).filterMap _ = _
      rw [List.filterMap_map, List.map_filterMap]
      refine List.filterMap_congr fun m _ => ?_
      dsimp only [Function.comp]
      rw [shape_toSource]
      cases m.shape with
      | propertyAssignment name initializer =>
        dsimp only [Shape.map]
        rw [hcall]
        split <;> rfl
      | _ => rfl
    | _ => rfl
  · rename_i hi
    have hother : (file.toSource i).shape callback = .other := if_neg hi
    rw [SourceFile.assertions, hother]

/-- **No two calls of a script have the same range.** -/
theorem pairwise_range_ne :
    ((file.toSource i).callsWithin (file.toSource i).root).Pairwise
      fun a b => (file.toSource i).range a ≠ (file.toSource i).range b := by
  show ((file.toSource i).callsWithin ⟨i, file.root⟩).Pairwise _
  rw [callsWithin_toSource, List.pairwise_map]
  have hn := nodup_ranges_of_parseTree file.parsed
  refine (List.pairwise_map.mp hn).imp fun {a b} hab => ?_
  show rangeIn i ⟨i, a⟩ ≠ rangeIn i ⟨i, b⟩
  rw [rangeIn, rangeIn, if_pos rfl, if_pos rfl]
  exact hab

end ScriptFile

/-! ## The diagnostics on failures -/

variable {ν : Type}

/-- Cutting a message into lines and joining them gives the message back. -/
theorem intercalate_splitBreaks (message : String) :
    "\n".intercalate ((splitBreaks message.toList).map String.ofList) = message := by
  have hjoin : ∀ parts : List (List Char),
      "\n".intercalate (parts.map String.ofList) = String.ofList (joinBreaks parts) := by
    intro parts
    induction parts with
    | nil => exact String.intercalate_nil
    | cons part parts ih =>
      cases parts with
      | nil => exact String.intercalate_singleton
      | cons next parts =>
        rw [List.map_cons, List.map_cons, String.intercalate_cons_cons, ← List.map_cons, ih]
        apply String.toList_injective
        simp [joinBreaks]
  rw [hjoin, joinBreaks_splitBreaks, String.ofList_toList]

/-- **The diagnostic that tells of a failure** in the file `name`. -/
def Diagnostic.ofFailure (name : String) (detail : FailureDetail) : Diagnostic :=
  { file := name, start := detail.location.start, length := detail.location.length,
    code := failingTestCode, message := "Test is failing: " ++ "\n".intercalate detail.message,
    severity := .error }

/-- **The editor tells of the verdicts that the run comes to**: the diagnostics on the
failing calls of a file are those of the failures among its calls. -/
theorem failingTests_eq (file : SourceFile ν) (oracle : TypeOracle ν) :
    failingTests file oracle = (file.callsWithin file.root).filterMap fun call =>
      (file.verdict oracle call).detail?.map (.ofFailure file.name) := by
  rw [failingTests_eq_filterMap]
  refine List.filterMap_congr fun call _ => ?_
  unfold SourceFile.verdict
  cases oracle.failure? call with
  | none => rfl
  | some payload =>
    show some (failingTest file call payload) = some (.ofFailure file.name _)
    unfold failingTest Diagnostic.ofFailure SourceFile.failureDetail
    rw [intercalate_splitBreaks]
    rfl

/-- The diagnostic on a failing call stands where the call does. -/
theorem range_of_ofFailure {file : SourceFile ν} {oracle : TypeOracle ν} {name : String}
    {call : ν} {d : Diagnostic}
    (h : (file.verdict oracle call).detail?.map (.ofFailure name) = some d) :
    file.range call = ⟨d.start, d.length⟩ := by
  obtain ⟨detail, hv, rfl⟩ := Option.map_eq_some_iff.mp h
  unfold SourceFile.verdict at hv
  split at hv
  · cases hv
    rfl
  · cases hv

/-- **Failing calls at different places have different diagnostics.** -/
theorem nodup_failingTests {file : SourceFile ν} (oracle : TypeOracle ν)
    (h : (file.callsWithin file.root).Pairwise fun a b => file.range a ≠ file.range b) :
    (failingTests file oracle).Nodup := by
  rw [failingTests_eq]
  refine List.Pairwise.filterMap _ (fun a b hab d hd e he hde => hab ?_) h
  rw [range_of_ofFailure hd, range_of_ofFailure he, hde]

theorem code_of_mem_failingTests {file : SourceFile ν} {oracle : TypeOracle ν} {d : Diagnostic}
    (h : d ∈ failingTests file oracle) : d.code = failingTestCode := by
  rw [failingTests_eq_filterMap] at h
  obtain ⟨call, _, hd⟩ := List.mem_filterMap.mp h
  obtain ⟨payload, _, rfl⟩ := Option.map_eq_some_iff.mp hd
  rfl

/-- **The editor shows the diagnostics on failing calls as they are**, whatever the
session shows by itself, if no two of them are equal. -/
theorem EditorSession.perm_failingTests {s : EditorSession ν} {name : String}
    {file : SourceFile ν} {oracle : TypeOracle ν} (hf : s.file? name = some (file, oracle))
    (hcode : ∀ d ∈ s.diagnostics name, d.code ≠ failingTestCode)
    (h : (failingTests file oracle).Nodup) :
    ((s.withTests.diagnostics name).filter (·.code == failingTestCode)).Perm
      (failingTests file oracle) := by
  have hown : ∀ d, (d ∈ s.diagnostics name ∨ d ∈ failingTests file oracle)
      ∧ (d.code == failingTestCode) = true ↔ d ∈ failingTests file oracle := by
    intro d
    refine ⟨fun ⟨hd, hc⟩ => hd.resolve_left (fun hd => hcode d hd (eq_of_beq hc)), fun hd => ?_⟩
    exact ⟨.inr hd, beq_of_eq (code_of_mem_failingTests hd)⟩
  show ((s.testedDiagnostics name).filter _).Perm _
  unfold testedDiagnostics
  rw [hf]
  dsimp only
  split
  · -- nothing fails, and the session reports as before
    rename_i hnil
    rw [hnil]
    refine List.perm_nil.mpr (List.filter_eq_nil_iff.mpr fun d hd hc => ?_)
    exact hcode d hd (eq_of_beq hc)
  · refine (List.perm_ext_iff_of_nodup ((Diagnostic.nodup_sortUnique _).filter _) h).mpr fun d => ?_
    rw [List.mem_filter, Diagnostic.mem_sortUnique, List.mem_append]
    exact hown d

/-! ## The session over a program -/

/-- A file that is found by a name has that name. -/
theorem HostProgram.name_of_file? {program : HostProgram ν} {name : String}
    {file : SourceFile ν} (h : program.file? name = some file) : file.name = name := by
  have hb := List.find?_some h
  exact eq_of_beq hb

namespace ScriptProgram

/-- The session over scripts reports nothing about tests by itself. -/
theorem code_ne_of_mem_diagnostics (p : ScriptProgram) {name : String} {d : Diagnostic}
    (h : d ∈ p.diagnostics name) : d.code ≠ failingTestCode := by
  unfold diagnostics at h
  split at h
  · unfold undeclaredCalls at h
    obtain ⟨⟨callee, called⟩, _, hd⟩ := List.mem_filterMap.mp h
    dsimp only at hd
    split at hd
    · cases hd
    · cases hd
      show "2304" ≠ failingTestCode
      decide
  · exact absurd h List.not_mem_nil

/-- The files of a program are its scripts, as files of a host. -/
theorem exists_script_of_mem_files {p : ScriptProgram} {file : SourceFile NodeRef}
    (h : file ∈ p.toHost.files) : ∃ (script : ScriptFile) (i : Nat), file = script.toSource i := by
  obtain ⟨⟨i, script⟩, _, rfl⟩ := List.mem_map.mp h
  exact ⟨script, i, rfl⟩

/-- The file of a name is the script of that name, as a file of the host. -/
theorem file?_toHost (p : ScriptProgram) (name : String) :
    p.toHost.file? name = (p.file? name).map fun f => f.1.toSource f.2 := by
  show (p.store.scripts.map fun s => s.script.toSource s.number).find? _ = _
  rw [List.find?_map, file?, Option.map_map]
  rfl

end ScriptProgram

/-- **The run and the editor agree on every file of a program.** Whatever fails a case of
the file has its diagnostic in the editor, with the place of the failure and its message;
every diagnostic on a test stands at a failing call below the root of the file; and there
are as many of them as failing calls, so no two of these are shown as one. -/
theorem ScriptProgram.diagnostics_agree (p : ScriptProgram) (name : String)
    (file : SourceFile NodeRef) (hf : p.toHost.file? name = some file) :
    (∀ g ∈ file.walk p.oracle, ∀ c ∈ g.toNode.cases, ∀ detail, c.verdict = .fail detail →
        Diagnostic.ofFailure name detail ∈ p.session.withTests.diagnostics name)
      ∧ (∀ d ∈ p.session.withTests.diagnostics name, d.code = failingTestCode →
          ∃ call ∈ file.callsWithin file.root, ∃ detail,
            file.verdict p.oracle call = .fail detail
              ∧ file.range call = ⟨d.start, d.length⟩)
      ∧ ((p.session.withTests.diagnostics name).filter (·.code == failingTestCode)).length
          = ((file.callsWithin file.root).filter fun call =>
              (file.verdict p.oracle call).status.isFailed).length := by
  have hname := HostProgram.name_of_file? hf
  rw [file?_toHost] at hf
  obtain ⟨⟨script, i⟩, hscript, rfl⟩ := Option.map_eq_some_iff.mp hf
  have hfile : p.session.file? name = some (script.toSource i, p.oracle) := by
    show (p.toHost.file? name).bind _ = _
    rw [file?_toHost, hscript]
    rfl
  have hperm := EditorSession.perm_failingTests hfile (fun d => p.code_ne_of_mem_diagnostics)
    (nodup_failingTests p.oracle (script.pairwise_range_ne i))
  -- from here on the editor is out of sight: these are the failures among the calls
  rw [failingTests_eq, hname] at hperm
  refine ⟨fun g hg c hc detail hv => ?_, fun d hd hc => ?_, ?_⟩
  · obtain ⟨call, hcall, he⟩ :=
      SourceFile.exists_call_of_failed_case (script.showsChildren i) p.oracle hg hc hv
    refine List.mem_of_mem_filter (hperm.mem_iff.mpr (List.mem_filterMap.mpr ⟨call, hcall, ?_⟩))
    rw [he]
    rfl
  · have hd := hperm.mem_iff.mp (List.mem_filter.mpr ⟨hd, beq_of_eq hc⟩)
    obtain ⟨call, hcall, he⟩ := List.mem_filterMap.mp hd
    refine ⟨call, hcall, ?_⟩
    cases hv : (script.toSource i).verdict p.oracle call with
    | pass =>
      rw [hv] at he
      cases he
    | fail detail => exact ⟨detail, rfl, range_of_ofFailure he⟩
  · rw [hperm.length_eq, List.length_filterMap_eq_countP, List.countP_eq_length_filter]
    refine congrArg List.length (List.filter_congr fun call _ => ?_)
    rw [Verdict.isFailed_status, Option.isSome_map]

/-- A program of one script, which asserts once something that fails. -/
def failingProgram : ScriptProgram :=
  .ofReadable [("a.test.ts",
    "declare function f(): RTT_FAIL<'m'>; describe('g', () => \x7b test('t', () => f()) \x7d)")]

theorem isSome_file?_failingProgram : (failingProgram.file? "a.test.ts").isSome = true := by
  decide +kernel

/-- The editor shows one failing test of this program. -/
theorem ScriptProgram.length_diagnostics_failingProgram :
    ((failingProgram.session.withTests.diagnostics "a.test.ts").filter
      (·.code == failingTestCode)).length = 1 := by
  have hf := (failingProgram.file?_toHost "a.test.ts").trans
    (congrArg (Option.map _) (Option.some_get isSome_file?_failingProgram).symm)
  rw [(failingProgram.diagnostics_agree "a.test.ts" _ hf).2.2]
  have hroot : ∀ (file : ScriptFile) (i : Nat), (file.toSource i).root = ⟨i, file.root⟩ :=
    fun _ _ => rfl
  rw [hroot, ScriptFile.callsWithin_toSource, List.filter_map, List.length_map]
  simp only [Function.comp_def, SourceFile.isFailed_verdict]
  decide +kernel

end TypeTest
