import Mathlib.Data.List.Forall2
import TypeTest.Proofs.Counters
import TypeTest.Proofs.WalkVisit
import TypeTest.Script.Program

/-!
# Adding scripts to a program

A program grows at its end, and of several declarations of a name the first one counts.
So whatever a name means in a program it means in every larger one: declarations are
looked up in lists that the larger program continues (`List.IsPrefix`), and a name of a
script that is already there is looked up in that script before anything else.

What may change is what meant nothing before. A call that resolved to no function may
come to resolve to a failing one, so a passing test may turn into a failing one, and a
failing test may fail by an earlier assertion. The other direction is closed: the
relation `StaysFailed` between what is found before and after is carried from the calls
through the tests and groups to the outcome of a run.
-/

namespace TypeTest

/-! ## Looking up in a list that continues another -/

/-- What is found in a list is found in every list that continues it. -/
theorem lookup_of_isPrefix {β : Type} {l l' : List (String × β)} (h : l <+: l') {key : String}
    {value : β} (hl : l.lookup key = some value) : l'.lookup key = some value := by
  obtain ⟨more, rfl⟩ := h
  rw [List.lookup_append, hl, Option.some_or]

/-- What is found in a list is in the list. -/
theorem mem_of_lookup {β : Type} {l : List (String × β)} {key : String} {value : β}
    (h : l.lookup key = some value) : (key, value) ∈ l := by
  obtain ⟨before, after, rfl, _⟩ := List.lookup_eq_some_iff.mp h
  exact List.mem_append_right _ List.mem_cons_self

namespace ScriptProgram

/-- **A program grows at its end.** -/
theorem files_isPrefix_withReadable (p : ScriptProgram) (sources : List (String × String)) :
    p.files <+: (p.withReadable sources).files := by
  induction sources generalizing p with
  | nil => exact List.prefix_refl _
  | cons source sources ih =>
    cases hs : ScriptFile.parse source.1 source.2 with
    | error e =>
      rw [withReadable, List.foldl_cons, addSource_of_error hs]
      exact ih p
    | ok file =>
      rw [withReadable, List.foldl_cons, addSource_of_ok hs]
      exact (files_push p file ▸ List.prefix_append _ _).trans (ih _)

section Larger

variable {p p' : ScriptProgram} (h : p.files <+: p'.files)

include h

/-! ## Declarations -/

theorem functions_isPrefix : p.functions <+: p'.functions := by
  obtain ⟨more, hm⟩ := h
  rw [functions, functions, ← hm, List.flatMap_append]
  exact List.prefix_append _ _

theorem zipIdx_files_isPrefix : p.files.zipIdx <+: p'.files.zipIdx := by
  obtain ⟨more, hm⟩ := h
  rw [← hm, List.zipIdx_append]
  exact List.prefix_append _ _

theorem values_isPrefix : p.values <+: p'.values := by
  obtain ⟨more, hm⟩ := zipIdx_files_isPrefix h
  rw [values, values, ← hm, List.flatMap_append]
  exact List.prefix_append _ _

/-- A script keeps its number. -/
theorem getElem?_files_of_isPrefix {i : Nat} (hi : i < p.files.length) :
    p'.files[i]? = p.files[i]? := by
  obtain ⟨more, hm⟩ := h
  rw [← hm, List.getElem?_append_left hi]

/-- **A name of a script that is there keeps its meaning**, the variables of the script
coming first. -/
theorem value?_of_isPrefix {i : Nat} {name : String} {value : ValueSource}
    (hi : i < p.files.length) (hv : p.value? i name = some value) :
    p'.value? i name = some value := by
  have hl : p'.localValue? i name = p.localValue? i name := by
    rw [localValue?_eq, localValue?_eq, getElem?_files_of_isPrefix h hi]
  rw [value?_eq, hl]
  rw [value?_eq] at hv
  cases hlocal : p.localValue? i name with
  | some found => rwa [hlocal] at hv
  | none =>
    rw [hlocal] at hv
    exact lookup_of_isPrefix (values_isPrefix h) hv

end Larger

/-- A variable of a script that starts with a value does so with one of its script. -/
theorem file_eq_of_value? {i : Nat} {n : Node} {name : String} {value : NodeRef}
    (h : n.value? i = some (name, .initialized value)) : value.file = i := by
  unfold Node.value? at h
  split at h
  · cases h
  · cases h
    rfl
  · cases h

/-- **The value that a variable starts with is in a script of the program.** -/
theorem file_lt_of_value? {p : ScriptProgram} {i : Nat} {name : String} {value : NodeRef}
    (hi : i < p.files.length) (hv : p.value? i name = some (.initialized value)) :
    value.file < p.files.length := by
  rw [value?_eq] at hv
  cases hlocal : p.localValue? i name with
  | some found =>
    obtain rfl : found = .initialized value := by
      rw [hlocal] at hv
      exact Option.some.inj hv
    rw [localValue?_eq] at hlocal
    obtain ⟨file, _, hfound⟩ := Option.bind_eq_some_iff.mp hlocal
    obtain ⟨n, _, hn⟩ := List.mem_filterMap.mp (mem_of_lookup hfound)
    rwa [file_eq_of_value? hn]
  | none =>
    have hglobal : p.values.lookup name = some (.initialized value) := by rwa [hlocal] at hv
    obtain ⟨⟨file, j⟩, hj, hn⟩ := List.mem_flatMap.mp (mem_of_lookup hglobal)
    obtain ⟨n, _, hn⟩ := List.mem_filterMap.mp hn
    rw [file_eq_of_value? hn]
    exact (List.mem_zipIdx' hj).1

section Larger

variable {p p' : ScriptProgram} (h : p.files <+: p'.files)

include h

/-! ## Types -/

/-- **A call that resolves keeps its signature.** -/
theorem signature?_of_isPrefix {call : NodeRef} {s : CallSignature}
    (hs : p.signature? call = some s) : p'.signature? call = some s := by
  unfold signature? at hs ⊢
  split at hs
  · split at hs
    · cases hs
    · rename_i name _
      rw [lookup_functions] at hs ⊢
      cases hf : p.functions.lookup name with
      | none =>
        rw [hf] at hs
        cases hs
      | some f =>
        rw [hf] at hs
        rw [lookup_of_isPrefix (functions_isPrefix h) hf]
        exact hs
  · cases hs

/-- **An expression that has a type keeps it**, by induction on the hops to its
declaration: each leads to an expression of a script that is already there. -/
theorem typeWithin_of_isPrefix (hops : Nat) {r : NodeRef} {type : String}
    (hr : r.file < p.files.length) (ht : p.typeWithin hops r = some type) :
    p'.typeWithin hops r = some type := by
  induction hops generalizing r with
  | zero =>
    unfold typeWithin at ht ⊢
    split at ht
    · rename_i name _
      cases hv : p.value? r.file name with
      | none =>
        rw [hv] at ht
        cases ht
      | some value =>
        rw [hv] at ht
        rw [value?_of_isPrefix h hr hv]
        exact ht
    · cases ht
    · obtain ⟨s, hs, rfl⟩ := Option.map_eq_some_iff.mp ht
      exact Option.map_eq_some_iff.mpr ⟨s, signature?_of_isPrefix h hs, rfl⟩
    all_goals exact ht
  | succ hops ih =>
    unfold typeWithin at ht ⊢
    split at ht
    · rename_i name _
      cases hv : p.value? r.file name with
      | none =>
        rw [hv] at ht
        cases ht
      | some value =>
        rw [hv] at ht
        rw [value?_of_isPrefix h hr hv]
        cases value with
        | declared type => exact ht
        | initialized value => exact ih (file_lt_of_value? hr hv) ht
    · exact ih hr ht
    · obtain ⟨s, hs, rfl⟩ := Option.map_eq_some_iff.mp ht
      exact Option.map_eq_some_iff.mpr ⟨s, signature?_of_isPrefix h hs, rfl⟩
    all_goals exact ht

/-- **A call that fails keeps failing.** -/
theorem isSome_failure?_of_isPrefix {call : NodeRef} (hc : (p.oracle.failure? call).isSome) :
    (p'.oracle.failure? call).isSome := by
  obtain ⟨payload, hp⟩ := Option.isSome_iff_exists.mp hc
  obtain ⟨type, ht, hd⟩ := Option.bind_eq_some_iff.mp hp
  obtain ⟨s, hs, rfl⟩ := Option.map_eq_some_iff.mp ht
  have hs' : p'.oracle.returnType call = some s.returnType :=
    Option.map_eq_some_iff.mpr ⟨s, signature?_of_isPrefix h hs, rfl⟩
  rw [TypeOracle.failure?, hs', Option.bind_some, hd]
  rfl

end Larger

end ScriptProgram

/-! ## Tests -/

/-- **A test of which another result is at hand**, that is failed if this one is. -/
def TestCase.StaysFailed (c c' : TestCase) : Prop :=
  c.description = c'.description ∧ (c.status = .failed → c'.status = .failed)

namespace TestNode

mutual
/-- **Two results of the same groups of tests**: each test that is failed in the first
is failed in the second. -/
def StaysFailed : TestNode → TestNode → Prop
  | .case c, .case c' => c.StaysFailed c'
  | .group description children, .group description' children' =>
    description = description' ∧ AllStayFailed children children'
  | _, _ => False

/-- Two results of the same sequence of groups and tests. -/
def AllStayFailed : List TestNode → List TestNode → Prop
  | [], [] => True
  | n :: ns, m :: ms => StaysFailed n m ∧ AllStayFailed ns ms
  | _, _ => False
end

theorem allStayFailed_of_forall₂ {ns ms : List TestNode} (h : List.Forall₂ StaysFailed ns ms) :
    AllStayFailed ns ms := by
  induction h with
  | nil => exact trivial
  | cons hn _ ih => exact ⟨hn, ih⟩

mutual
/-- The cases of two results of the same groups are results of the same tests. -/
theorem StaysFailed.cases : ∀ {n m : TestNode}, StaysFailed n m →
    List.Forall₂ TestCase.StaysFailed n.cases m.cases
  | .case _, .case _, h => .cons h .nil
  | .group _ _, .group _ _, h => AllStayFailed.cases h.2
  | .case _, .group _ _, h => h.elim
  | .group _ _, .case _, h => h.elim

theorem AllStayFailed.cases : ∀ {ns ms : List TestNode}, AllStayFailed ns ms →
    List.Forall₂ TestCase.StaysFailed (casesOf ns) (casesOf ms)
  | [], [], _ => .nil
  | _ :: _, _ :: _, h => List.rel_append (StaysFailed.cases h.1) (AllStayFailed.cases h.2)
  | [], _ :: _, h => h.elim
  | _ :: _, [], h => h.elim
end

/-- If one of several tests is failed, so is one of their other results. -/
theorem exists_failed_of_forall₂ {cs cs' : List TestCase}
    (h : List.Forall₂ TestCase.StaysFailed cs cs') (hc : ∃ c ∈ cs, c.status = .failed) :
    ∃ c ∈ cs', c.status = .failed := by
  induction h with
  | nil => exact hc
  | cons hcc _ ih =>
    rw [List.exists_mem_cons_iff] at hc ⊢
    exact hc.imp hcc.2 ih

/-- The cases of several groups are those of the trees that they are. -/
theorem casesOf_map_toNode (gs : List TestGroup) :
    casesOf (gs.map TestGroup.toNode) = gs.flatMap fun g => g.toNode.cases := by
  induction gs with
  | nil => rfl
  | cons g gs ih => rw [List.map_cons, casesOf, ih, List.flatMap_cons]

end TestNode

/-- **A file that is failed stays so** if its tests do. -/
theorem FileResult.status_eq_failed_of_staysFailed {f f' : FileResult}
    (h : TestNode.AllStayFailed (f.groups.map TestGroup.toNode) (f'.groups.map TestGroup.toNode))
    (hf : f.status = .failed) : f'.status = .failed := by
  have hcases := h.cases
  rw [TestNode.casesOf_map_toNode, TestNode.casesOf_map_toNode] at hcases
  exact f'.status_eq_failed_iff.mpr
    (TestNode.exists_failed_of_forall₂ hcases (f.status_eq_failed_iff.mp hf))

namespace SourceFile

variable {ν : Type} {file : SourceFile ν} {oracle oracle' : TypeOracle ν}

/-- A sequence of calls fails exactly if one of them does. -/
theorem isFailed_firstFailure (file : SourceFile ν) (oracle : TypeOracle ν) (calls : List ν) :
    (file.firstFailure oracle calls).status = .failed
      ↔ ∃ call ∈ calls, (oracle.failure? call).isSome := by
  rw [status_firstFailure]
  simp only [← Status.isFailed_iff, isFailed_verdict]

section Calls

variable (h : ∀ call, (oracle.failure? call).isSome → (oracle'.failure? call).isSome)

include h

theorem staysFailed_testCase (description callback : ν) :
    (file.testCase oracle description callback).StaysFailed
      (file.testCase oracle' description callback) := by
  refine ⟨rfl, fun hs => ?_⟩
  obtain ⟨call, hcall, hf⟩ := (file.isFailed_firstFailure oracle _).mp hs
  exact (file.isFailed_firstFailure oracle' _).mpr ⟨call, hcall, h call hf⟩

/-- **If calls keep failing, so do the tests below a node.** -/
theorem staysFailed_visit (inside : Bool) (n : ν) :
    List.Forall₂ TestNode.StaysFailed (file.visit oracle inside n)
      (file.visit oracle' inside n) := by
  have hflat : ∀ (ns : List ν) (inside : Bool),
      (∀ m ∈ ns, List.Forall₂ TestNode.StaysFailed (file.visit oracle inside m)
        (file.visit oracle' inside m)) →
      List.Forall₂ TestNode.StaysFailed (ns.flatMap (file.visit oracle inside))
        (ns.flatMap (file.visit oracle' inside)) := by
    intro ns inside hns
    induction ns with
    | nil => exact .nil
    | cons m ns ih =>
      rw [List.flatMap_cons, List.flatMap_cons]
      exact List.rel_append (hns m List.mem_cons_self)
        (ih fun k hk => hns k (List.mem_cons_of_mem _ hk))
  induction n using file.wellFounded.induction generalizing inside with
  | _ n ih =>
    rw [visit_eq, visit_eq]
    cases hsite : file.site? n with
    | none => exact hflat _ _ fun c hc => ih c (.child hc) inside
    | some site =>
      cases site with
      | group description callback =>
        refine .cons ⟨rfl, TestNode.allStayFailed_of_forall₂ (hflat _ _ fun b hb => ?_)⟩ .nil
        exact ih b (beneath_of_site? hsite (Option.mem_toList.mp hb)) true
      | test description callback =>
        cases inside with
        | false => exact .nil
        | true => exact .cons (staysFailed_testCase h description callback) .nil

/-- **If calls keep failing, so do the tests of a file.** -/
theorem allStayFailed_walk :
    TestNode.AllStayFailed ((file.walk oracle).map TestGroup.toNode)
      ((file.walk oracle').map TestGroup.toNode) := by
  rw [map_toNode_walk_eq, map_toNode_walk_eq]
  exact TestNode.allStayFailed_of_forall₂ (staysFailed_visit h false file.root)

end Calls

end SourceFile

/-! ## Runs -/

/-- **A run that fails keeps failing** when files are added at the end and no call
ceases to fail. -/
theorem HostProgram.exitCode_run_of_isPrefix {ν : Type} {program program' : HostProgram ν}
    (hfiles : program.files <+: program'.files)
    (hcalls : ∀ call,
      (program.oracle.failure? call).isSome → (program'.oracle.failure? call).isSome)
    (selected : String → Bool) (h : (program.run selected).exitCode = 1) :
    (program'.run selected).exitCode = 1 := by
  rw [RunResult.exitCode_eq_one_iff, run, RunResult.failed_cases_pos_iff] at h ⊢
  obtain ⟨f, hf, hs⟩ := h
  obtain ⟨file, hfile, rfl⟩ := List.mem_map.mp hf
  obtain ⟨hmem, hsel⟩ := List.mem_filter.mp hfile
  refine ⟨_, List.mem_map_of_mem (List.mem_filter.mpr ⟨hfiles.subset hmem, hsel⟩), ?_⟩
  exact FileResult.status_eq_failed_of_staysFailed (SourceFile.allStayFailed_walk hcalls) hs

theorem ScriptProgram.files_toHost_isPrefix {p p' : ScriptProgram} (h : p.files <+: p'.files) :
    p.toHost.files <+: p'.toHost.files := by
  rw [files_toHost, files_toHost]
  exact (zipIdx_files_isPrefix h).map _

/-- **Adding scripts never changes what is resolved.** Whatever scripts are added after
each other, refused ones among them or ones with names that are already there: every
script of the program is still there under its number, each of its calls that resolved
keeps its signature, each of its expressions that had a type keeps that type, and each
of its tests that failed still fails, in the same groups. So a run with the same
settings that failed does not come to pass. -/
theorem ScriptProgram.resolved_of_withReadable (p : ScriptProgram)
    (sources : List (String × String)) :
    (∀ (i : Nat) (file : ScriptFile), p.files[i]? = some file →
        (p.withReadable sources).files[i]? = some file
          ∧ (∀ (n : Node) (s : CallSignature), p.signature? ⟨i, n⟩ = some s →
              (p.withReadable sources).signature? ⟨i, n⟩ = some s)
          ∧ (∀ (n : Node) (type : String), p.typeAt? ⟨i, n⟩ = some type →
              (p.withReadable sources).typeAt? ⟨i, n⟩ = some type)
          ∧ TestNode.AllStayFailed
              (((file.toSource i).walk p.oracle).map TestGroup.toNode)
              (((file.toSource i).walk (p.withReadable sources).oracle).map TestGroup.toNode))
      ∧ ∀ settings : RunSettings, (p.toHost.run settings.selects).exitCode = 1 →
          ((p.withReadable sources).toHost.run settings.selects).exitCode = 1 := by
  have h := p.files_isPrefix_withReadable sources
  have hcalls : ∀ call, (p.oracle.failure? call).isSome →
      ((p.withReadable sources).oracle.failure? call).isSome :=
    fun _ hc => isSome_failure?_of_isPrefix h hc
  refine ⟨fun i file hi => ⟨?_, fun n s => signature?_of_isPrefix h, fun n type => ?_, ?_⟩,
    fun settings => ?_⟩
  · rw [getElem?_files_of_isPrefix h (List.getElem?_eq_some_iff.mp hi).1, hi]
  · exact typeWithin_of_isPrefix h maxHops (List.getElem?_eq_some_iff.mp hi).1
  · exact SourceFile.allStayFailed_walk hcalls
  · exact HostProgram.exitCode_run_of_isPrefix (files_toHost_isPrefix h) hcalls settings.selects

end TypeTest
