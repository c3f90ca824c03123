import Mathlib.Algebra.BigOperators.Group.List.Basic
import TypeTest.Run
import TypeTest.Settings

/-!
# Counters, statuses and the outcome of a run

Four quantities speak about the same results: the status of a group or of a file,
the tallies that are counted over a stack, the counters that grow as files are
recorded, and the outcome. They are brought together through lists. `TestNode.cases`
and `TestNode.groups` list what a tree holds, and `Tally.of` counts a list of
statuses; every tally of a run turns out to be `Tally.of` of such a list.

Tallies add up (`Tally` and `Counters` are commutative monoids), so what a run counts
is the sum of what its files count, and the order of the files does not matter. A
tree is failed exactly if one of its cases is; its failed groups are therefore
nonempty in number exactly if its failed cases are, which is what links the outcome
to groups and files.
-/

namespace TypeTest

/-! ## Tallies add up -/

namespace Tally

@[ext] theorem ext {a b : Tally} (ht : a.total = b.total) (hf : a.failed = b.failed)
    (hp : a.passed = b.passed) : a = b := by
  cases a
  cases b
  simp_all

instance : Zero Tally := ⟨zero⟩

@[simp] theorem total_zero : (0 : Tally).total = 0 := rfl

@[simp] theorem failed_zero : (0 : Tally).failed = 0 := rfl

@[simp] theorem passed_zero : (0 : Tally).passed = 0 := rfl

/-- Tallies add up field by field. -/
instance : AddCommMonoid Tally where
  add_assoc a b c := by ext <;> simp [Nat.add_assoc]
  zero_add a := by ext <;> simp
  add_zero a := by ext <;> simp
  add_comm a b := by ext <;> simp [Nat.add_comm]
  nsmul := nsmulRec

/-- **The tally of a list of statuses.** -/
def of (ss : List Status) : Tally := ⟨ss.length, ss.count .failed, ss.count .passed⟩

@[simp] theorem of_nil : of [] = 0 := rfl

theorem of_append (ss ts : List Status) : of (ss ++ ts) = of ss + of ts := by
  ext <;> simp [of]

theorem of_cons (s : Status) (ss : List Status) : of (s :: ss) = one s + of ss := by
  cases s <;> ext <;> simp [of, one, Nat.add_comm]

/-- Adding up in a loop is adding the sum. -/
theorem foldl_add {α : Type} (f : α → Tally) (as : List α) (t : Tally) :
    as.foldl (fun t a => t + f a) t = t + (as.map f).sum := by
  induction as generalizing t with
  | nil => exact (add_zero t).symm
  | cons a as ih => rw [List.foldl_cons, ih, List.map_cons, List.sum_cons, add_assoc]

/-- The tally of several lists of statuses is the sum of theirs. -/
theorem of_map_flatMap {α β : Type} (f : α → List β) (g : β → Status) (as : List α) :
    of ((as.flatMap f).map g) = (as.map fun a => of ((f a).map g)).sum := by
  induction as with
  | nil => rfl
  | cons a as ih =>
    rw [List.flatMap_cons, List.map_append, of_append, ih, List.map_cons, List.sum_cons]

/-- **A tally of statuses splits its total** into failed and passed. -/
theorem total_of (ss : List Status) : (of ss).total = (of ss).failed + (of ss).passed := by
  induction ss with
  | nil => rfl
  | cons s ss ih =>
    rw [of_cons]
    cases s <;> simp only [total_add, failed_add, passed_add, one, ih] <;> omega

theorem failed_of_pos_iff (ss : List Status) : 0 < (of ss).failed ↔ .failed ∈ ss :=
  List.count_pos_iff

end Tally

/-! ## What a tree holds -/

namespace TestNode

mutual
/-- **The groups of a tree** in order, itself included if it is one. -/
def groups : TestNode → List TestGroup
  | .case _ => []
  | .group description children => ⟨description, children⟩ :: groupsOf children

/-- The groups of several trees. -/
def groupsOf : List TestNode → List TestGroup
  | [] => []
  | n :: ns => n.groups ++ groupsOf ns
end

mutual
/-- The group tally of a tree is that of its groups. -/
theorem groupTally_eq : ∀ n : TestNode, n.groupTally = .of (n.groups.map TestGroup.status)
  | .case _ => rfl
  | .group description children => by
    rw [groupTally, groups, List.map_cons, Tally.of_cons, groupTallyOf_eq children]
    rfl

theorem groupTallyOf_eq :
    ∀ ns : List TestNode, groupTallyOf ns = .of ((groupsOf ns).map TestGroup.status)
  | [] => rfl
  | n :: ns => by
    rw [groupTallyOf, groupsOf, List.map_append, Tally.of_append, groupTally_eq n,
      groupTallyOf_eq ns]
end

mutual
/-- The case tally of a tree is that of its cases. -/
theorem caseTally_eq : ∀ n : TestNode, n.caseTally = .of (n.cases.map TestCase.status)
  | .case c => by
    show Tally.one c.status = .of [c.status]
    rw [Tally.of_cons, Tally.of_nil, add_zero]
  | .group description children => by
    rw [caseTally, cases, caseTallyOf_eq children]

theorem caseTallyOf_eq :
    ∀ ns : List TestNode, caseTallyOf ns = .of ((casesOf ns).map TestCase.status)
  | [] => rfl
  | n :: ns => by
    rw [caseTallyOf, casesOf, List.map_append, Tally.of_append, caseTally_eq n,
      caseTallyOf_eq ns]
end

mutual
/-- **A tree is failed exactly if one of its cases is.** -/
theorem status_eq_failed_iff :
    ∀ n : TestNode, n.status = .failed ↔ ∃ c ∈ n.cases, c.status = .failed
  | .case c => by simp [status, cases]
  | .group description children => by
    rw [cases, ← anyFailed_iff children, status]
    cases anyFailed children <;> simp [Status.ofFailed]

theorem anyFailed_iff :
    ∀ ns : List TestNode, anyFailed ns = true ↔ ∃ c ∈ casesOf ns, c.status = .failed
  | [] => by simp [anyFailed, casesOf]
  | n :: ns => by
    rw [anyFailed, Bool.or_eq_true, anyFailed_iff ns, casesOf]
    simp only [List.mem_append, or_and_right, exists_or]
    refine or_congr ?_ Iff.rfl
    rw [← status_eq_failed_iff n]
    cases n.status <;> simp
end

mutual
/-- A case of a group of a tree is a case of the tree. -/
theorem mem_cases_of_mem_groups :
    ∀ (n : TestNode) {g : TestGroup} {c : TestCase}, g ∈ n.groups → c ∈ g.toNode.cases →
      c ∈ n.cases
  | .case _, _, _, hg, _ => absurd hg List.not_mem_nil
  | .group description children, g, c, hg, hc => by
    rcases List.mem_cons.mp hg with rfl | hg
    · exact hc
    · exact mem_casesOf_of_mem_groupsOf children hg hc

theorem mem_casesOf_of_mem_groupsOf :
    ∀ (ns : List TestNode) {g : TestGroup} {c : TestCase}, g ∈ groupsOf ns →
      c ∈ g.toNode.cases → c ∈ casesOf ns
  | [], _, _, hg, _ => absurd hg List.not_mem_nil
  | n :: ns, _, _, hg, hc => by
    rcases List.mem_append.mp hg with hg | hg
    · exact List.mem_append_left _ (mem_cases_of_mem_groups n hg hc)
    · exact List.mem_append_right _ (mem_casesOf_of_mem_groupsOf ns hg hc)
end

end TestNode

namespace TestGroup

theorem status_eq_failed_iff (g : TestGroup) :
    g.status = .failed ↔ ∃ c ∈ TestNode.casesOf g.children, c.status = .failed :=
  TestNode.status_eq_failed_iff g.toNode

/-! ## The loops count what the trees hold -/

/-- The groups among several trees hold all groups of the trees. -/
theorem sum_groupTally_filterMap (ns : List TestNode) :
    ((ns.filterMap TestNode.group?).map fun g => g.toNode.groupTally).sum
      = TestNode.groupTallyOf ns := by
  induction ns with
  | nil => rfl
  | cons n ns ih =>
    rw [TestNode.groupTallyOf, ← ih]
    cases n with
    | case c => exact (zero_add _).symm
    | group description children => rfl

/-- The cases among several trees and those in the groups among them are all cases of
the trees. -/
theorem sum_caseTally_filterMap (ns : List TestNode) :
    ((ns.filterMap TestNode.case?).map fun c => Tally.one c.status).sum
        + ((ns.filterMap TestNode.group?).map fun g => g.toNode.caseTally).sum
      = TestNode.caseTallyOf ns := by
  induction ns with
  | nil => rfl
  | cons n ns ih =>
    rw [TestNode.caseTallyOf, ← ih]
    cases n with
    | case c => exact add_assoc _ _ _
    | group description children => exact add_left_comm _ _ _

/-- **Every group on a stack counts once**, with the groups in it. -/
theorem countGroups_eq (t : Tally) (stack : List TestGroup) :
    countGroups t stack = t + (stack.map fun g => g.toNode.groupTally).sum := by
  fun_induction countGroups t stack with
  | case1 t => exact (add_zero t).symm
  | case2 t g stack ih =>
    -- the groups in it come onto the stack in reverse, which a sum does not see
    have hg : g.toNode.groupTally
        = .one g.status + (g.subgroups.map fun g => g.toNode.groupTally).sum := by
      rw [subgroups, sum_groupTally_filterMap]
      rfl
    rw [ih, List.map_append, List.sum_append, List.map_reverse, List.sum_reverse, List.map_cons,
      List.sum_cons, hg, add_assoc, add_assoc]

/-- **Every case in the groups on a stack counts once.** -/
theorem countCases_eq (t : Tally) (stack : List TestGroup) :
    countCases t stack = t + (stack.map fun g => g.toNode.caseTally).sum := by
  fun_induction countCases t stack with
  | case1 t => exact (add_zero t).symm
  | case2 t g stack ih =>
    have hg : g.toNode.caseTally
        = (g.ownCases.map fun c => .one c.status).sum
          + (g.subgroups.map fun g => g.toNode.caseTally).sum := by
      rw [ownCases, subgroups, sum_caseTally_filterMap]
      rfl
    have hc : g.ownCases.foldl (fun t c => t + .one c.status) t
        = t + (g.ownCases.map fun c => .one c.status).sum :=
      Tally.foldl_add _ _ _
    rw [ih, hc, List.map_append, List.sum_append, List.map_reverse, List.sum_reverse,
      List.map_cons, List.sum_cons, hg, add_assoc, add_assoc]

/-- **The group tally of a group is that of its groups.** -/
theorem groupTally_eq (g : TestGroup) :
    g.groupTally = .of (g.toNode.groups.map status) := by
  rw [groupTally, countGroups_eq, List.map_singleton, List.sum_singleton,
    TestNode.groupTally_eq]
  exact zero_add _

/-- **The case tally of a group is that of its cases.** -/
theorem caseTally_eq (g : TestGroup) :
    g.caseTally = .of (g.toNode.cases.map TestCase.status) := by
  rw [caseTally, countCases_eq, List.map_singleton, List.sum_singleton, TestNode.caseTally_eq]
  exact zero_add _

end TestGroup

/-! ## Files -/

namespace FileResult

/-- **The groups of a file**, nested ones included, in order. -/
def allGroups (f : FileResult) : List TestGroup := f.groups.flatMap fun g => g.toNode.groups

/-- **The cases of a file** in order. -/
def allCases (f : FileResult) : List TestCase := f.groups.flatMap fun g => g.toNode.cases

/-- **What a file adds to the counters.** -/
def counters (f : FileResult) : Counters where
  files := .one f.status
  groups := .of (f.allGroups.map TestGroup.status)
  cases := .of (f.allCases.map TestCase.status)

/-- **A file is failed exactly if one of its cases is.** -/
theorem status_eq_failed_iff (f : FileResult) :
    f.status = .failed ↔ ∃ c ∈ f.allCases, c.status = .failed := by
  have hs : f.status = .failed ↔ ∃ g ∈ f.groups, g.status = .failed := by
    rw [status, Status.ofFailed_eq_failed_iff, List.any_eq_true]
    simp only [Status.isFailed_iff]
  rw [hs]
  constructor
  · rintro ⟨g, hg, hf⟩
    obtain ⟨c, hc, hcf⟩ := g.status_eq_failed_iff.mp hf
    exact ⟨c, List.mem_flatMap.mpr ⟨g, hg, hc⟩, hcf⟩
  · rintro ⟨c, hc, hcf⟩
    obtain ⟨g, hg, hc⟩ := List.mem_flatMap.mp hc
    exact ⟨g, hg, g.status_eq_failed_iff.mpr ⟨c, hc, hcf⟩⟩

/-- **A file is failed exactly if one of its groups is**, at whatever depth. -/
theorem exists_failed_group_iff (f : FileResult) :
    (∃ g ∈ f.allGroups, g.status = .failed) ↔ f.status = .failed := by
  rw [status_eq_failed_iff]
  constructor
  · rintro ⟨g, hg, hf⟩
    obtain ⟨top, htop, hg⟩ := List.mem_flatMap.mp hg
    obtain ⟨c, hc, hcf⟩ := g.status_eq_failed_iff.mp hf
    exact ⟨c, List.mem_flatMap.mpr
      ⟨top, htop, TestNode.mem_cases_of_mem_groups top.toNode hg hc⟩, hcf⟩
  · -- the outermost group around a failed case is failed
    rintro ⟨c, hc, hcf⟩
    obtain ⟨top, htop, hc⟩ := List.mem_flatMap.mp hc
    exact ⟨top, List.mem_flatMap.mpr ⟨top, htop, List.mem_cons_self⟩,
      top.status_eq_failed_iff.mpr ⟨c, hc, hcf⟩⟩

end FileResult

/-! ## Counters add up -/

namespace Counters

@[ext] theorem ext {a b : Counters} (hf : a.files = b.files) (hg : a.groups = b.groups)
    (hc : a.cases = b.cases) : a = b := by
  cases a
  cases b
  simp_all

instance : Zero Counters := ⟨zero⟩

instance : Add Counters := ⟨fun a b => ⟨a.files + b.files, a.groups + b.groups, a.cases + b.cases⟩⟩

@[simp] theorem files_zero : (0 : Counters).files = 0 := rfl

@[simp] theorem groups_zero : (0 : Counters).groups = 0 := rfl

@[simp] theorem cases_zero : (0 : Counters).cases = 0 := rfl

@[simp] theorem files_add (a b : Counters) : (a + b).files = a.files + b.files := rfl

@[simp] theorem groups_add (a b : Counters) : (a + b).groups = a.groups + b.groups := rfl

@[simp] theorem cases_add (a b : Counters) : (a + b).cases = a.cases + b.cases := rfl

/-- Counters add up field by field. -/
instance : AddCommMonoid Counters where
  add_assoc a b c := by ext1 <;> exact add_assoc _ _ _
  zero_add a := by ext1 <;> exact zero_add _
  add_zero a := by ext1 <;> exact add_zero _
  add_comm a b := by ext1 <;> exact add_comm _ _
  nsmul := nsmulRec

end Counters

namespace RunResult

/-- **Recording a file adds what the file counts.** -/
theorem counters_record (run : RunResult) (f : FileResult) :
    (run.record f).counters = run.counters + f.counters := by
  ext1
  · rfl
  · show f.groups.foldl _ run.counters.groups = run.counters.groups + .of (f.allGroups.map _)
    rw [Tally.foldl_add, FileResult.allGroups, Tally.of_map_flatMap]
    exact congrArg (fun ts => run.counters.groups + ts.sum)
      (List.map_congr_left fun g _ => TestGroup.groupTally_eq g)
  · show f.groups.foldl _ run.counters.cases = run.counters.cases + .of (f.allCases.map _)
    rw [Tally.foldl_add, FileResult.allCases, Tally.of_map_flatMap]
    exact congrArg (fun ts => run.counters.cases + ts.sum)
      (List.map_congr_left fun g _ => TestGroup.caseTally_eq g)

/-- **A run counts what its files count**, on top of what it counted before. -/
theorem counters_foldl_record (fs : List FileResult) (run : RunResult) :
    (fs.foldl record run).counters = run.counters + (fs.map FileResult.counters).sum := by
  induction fs generalizing run with
  | nil => exact (add_zero _).symm
  | cons f fs ih =>
    rw [List.foldl_cons, ih, counters_record, List.map_cons, List.sum_cons, add_assoc]

/-- Recorded files are kept in the order in which they are recorded. -/
theorem files_foldl_record (fs : List FileResult) (run : RunResult) :
    (fs.foldl record run).files = run.files ++ fs := by
  induction fs generalizing run with
  | nil => exact (List.append_nil _).symm
  | cons f fs ih =>
    rw [List.foldl_cons, ih]
    exact List.append_assoc _ _ _

@[simp] theorem files_ofFiles (fs : List FileResult) : (ofFiles fs).files = fs :=
  files_foldl_record fs empty

theorem counters_ofFiles (fs : List FileResult) :
    (ofFiles fs).counters = (fs.map FileResult.counters).sum :=
  (counters_foldl_record fs empty).trans (zero_add _)

/-- **The counters of a run are tallies**: of its files, of the groups in them and of
the cases in them. -/
theorem counters_ofFiles_eq (fs : List FileResult) :
    (ofFiles fs).counters =
      { files := .of (fs.map FileResult.status),
        groups := .of ((fs.flatMap FileResult.allGroups).map TestGroup.status),
        cases := .of ((fs.flatMap FileResult.allCases).map TestCase.status) } := by
  rw [counters_ofFiles]
  induction fs with
  | nil => rfl
  | cons f fs ih =>
    rw [List.map_cons, List.sum_cons, ih]
    ext1
    · exact (Tally.of_cons _ _).symm
    · show _ = Tally.of (((f :: fs).flatMap FileResult.allGroups).map _)
      rw [List.flatMap_cons, List.map_append, Tally.of_append]
      rfl
    · show _ = Tally.of (((f :: fs).flatMap FileResult.allCases).map _)
      rw [List.flatMap_cons, List.map_append, Tally.of_append]
      rfl

/-- The counters do not depend on the order of the files. -/
theorem counters_ofFiles_perm {fs fs' : List FileResult} (h : fs'.Perm fs) :
    (ofFiles fs').counters = (ofFiles fs).counters := by
  rw [counters_ofFiles, counters_ofFiles]
  exact (h.map _).sum_eq

/-! ## The outcome -/

theorem exitCode_eq_one_iff (run : RunResult) :
    run.exitCode = 1 ↔ 0 < run.counters.cases.failed := by
  unfold exitCode
  split <;> simp_all

/-- **Some file is failed exactly if some case is counted as failed.** -/
theorem failed_cases_pos_iff (fs : List FileResult) :
    0 < (ofFiles fs).counters.cases.failed ↔ ∃ f ∈ fs, f.status = .failed := by
  rw [counters_ofFiles_eq, Tally.failed_of_pos_iff, List.mem_map]
  simp only [List.mem_flatMap, FileResult.status_eq_failed_iff]
  constructor
  · rintro ⟨c, ⟨f, hf, hc⟩, hs⟩
    exact ⟨f, hf, c, hc, hs⟩
  · rintro ⟨f, hf, c, hc, hs⟩
    exact ⟨c, ⟨f, hf, hc⟩, hs⟩

/-- **Some file is failed exactly if some group is counted as failed.** -/
theorem failed_groups_pos_iff (fs : List FileResult) :
    0 < (ofFiles fs).counters.groups.failed ↔ ∃ f ∈ fs, f.status = .failed := by
  rw [counters_ofFiles_eq, Tally.failed_of_pos_iff, List.mem_map]
  simp only [List.mem_flatMap, ← FileResult.exists_failed_group_iff]
  constructor
  · rintro ⟨g, ⟨f, hf, hg⟩, hs⟩
    exact ⟨f, hf, g, hg, hs⟩
  · rintro ⟨f, hf, g, hg, hs⟩
    exact ⟨g, ⟨f, hf, hg⟩, hs⟩

/-- **Results, counters and outcome of a run that agree.** -/
structure Agrees (run : RunResult) : Prop where
  /-- The counters are tallies of the files, of the groups in them and of the cases in
  them, nested ones included. -/
  files : run.counters.files = .of (run.files.map FileResult.status)
  groups : run.counters.groups = .of ((run.files.flatMap FileResult.allGroups).map TestGroup.status)
  cases : run.counters.cases = .of ((run.files.flatMap FileResult.allCases).map TestCase.status)
  /-- Every total is split into failed and passed. -/
  filesTotal : run.counters.files.total = run.counters.files.failed + run.counters.files.passed
  groupsTotal : run.counters.groups.total = run.counters.groups.failed + run.counters.groups.passed
  casesTotal : run.counters.cases.total = run.counters.cases.failed + run.counters.cases.passed
  /-- The outcome is told by the cases, by the files, and by the groups alike. -/
  exitCode_le : run.exitCode ≤ 1
  exitCode_iff_cases : run.exitCode = 1 ↔ 0 < run.counters.cases.failed
  exitCode_iff_files : run.exitCode = 1 ↔ ∃ f ∈ run.files, f.status = .failed
  exitCode_iff_groups : run.exitCode = 1 ↔ 0 < run.counters.groups.failed

theorem agrees_ofFiles (fs : List FileResult) : (ofFiles fs).Agrees where
  files := by rw [counters_ofFiles_eq, files_ofFiles]
  groups := by rw [counters_ofFiles_eq, files_ofFiles]
  cases := by rw [counters_ofFiles_eq, files_ofFiles]
  filesTotal := by rw [counters_ofFiles_eq]; exact Tally.total_of _
  groupsTotal := by rw [counters_ofFiles_eq]; exact Tally.total_of _
  casesTotal := by rw [counters_ofFiles_eq]; exact Tally.total_of _
  exitCode_le := by
    unfold exitCode
    split <;> omega
  exitCode_iff_cases := exitCode_eq_one_iff _
  exitCode_iff_files := by
    rw [exitCode_eq_one_iff, failed_cases_pos_iff, files_ofFiles]
  exitCode_iff_groups := by
    rw [exitCode_eq_one_iff, failed_cases_pos_iff, failed_groups_pos_iff]

end RunResult

/-- **Statuses, counters and the outcome of a run agree.** A group is failed exactly if
one of the cases below it is. However files are recorded, results, counters and outcome
agree, and the order of the files leaves the counters as they are. A run of a program
records its selected files, each once and in the order of the program. -/
theorem RunResult.agrees_of_recorded :
    (∀ g : TestGroup, g.status = .failed ↔ ∃ c ∈ TestNode.casesOf g.children, c.status = .failed)
      ∧ (∀ fs : List FileResult, (RunResult.ofFiles fs).files = fs ∧ (RunResult.ofFiles fs).Agrees
          ∧ ∀ fs' : List FileResult, fs'.Perm fs →
              (RunResult.ofFiles fs').counters = (RunResult.ofFiles fs).counters)
      ∧ ∀ (ν : Type) (program : HostProgram ν) (settings : RunSettings),
          (program.run settings.selects).Agrees
            ∧ (program.run settings.selects).files
              = (program.files.filter fun file => settings.selects file.name).map
                  fun file => ⟨file.name, file.walk program.oracle⟩ := by
  refine ⟨TestGroup.status_eq_failed_iff, fun fs => ?_, fun ν program settings => ?_⟩
  · exact ⟨RunResult.files_ofFiles fs, RunResult.agrees_ofFiles fs,
      fun _ h => RunResult.counters_ofFiles_perm h⟩
  · exact ⟨RunResult.agrees_ofFiles _, RunResult.files_ofFiles _⟩

end TypeTest
