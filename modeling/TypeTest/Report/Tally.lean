import TypeTest.Report.Result

/-!
# Counting results

A tally counts statuses, in total and by kind. The counters of a run hold one for
its files, one for its groups and one for its cases; they are updated as files are
recorded, and the outcome of the run is read off them.

What a tree holds is defined by recursion (`TestNode.groupTally`,
`TestNode.caseTally`). The counters are found by loops that never nest, over a stack
of the groups that are left to count; the number of groups on it is what ends them.
-/

namespace TypeTest

/-- **Counts of results.** -/
structure Tally where
  total : Nat
  failed : Nat
  passed : Nat
  deriving DecidableEq, Repr, Inhabited

namespace Tally

/-- The count of no results. -/
def zero : Tally := ⟨0, 0, 0⟩

/-- The count of one result. -/
def one : Status → Tally
  | .failed => ⟨1, 1, 0⟩
  | .passed => ⟨1, 0, 1⟩

/-- Two counts together. -/
def add (a b : Tally) : Tally := ⟨a.total + b.total, a.failed + b.failed, a.passed + b.passed⟩

instance : Add Tally := ⟨add⟩

@[simp] theorem total_add (a b : Tally) : (a + b).total = a.total + b.total := rfl

@[simp] theorem failed_add (a b : Tally) : (a + b).failed = a.failed + b.failed := rfl

@[simp] theorem passed_add (a b : Tally) : (a + b).passed = a.passed + b.passed := rfl

end Tally

namespace TestNode

mutual
/-- The groups of a tree, itself included if it is one. -/
def groupTally : TestNode → Tally
  | .case _ => .zero
  | .group description children =>
    .one (status (.group description children)) + groupTallyOf children

/-- The groups of several trees. -/
def groupTallyOf : List TestNode → Tally
  | [] => .zero
  | n :: ns => n.groupTally + groupTallyOf ns
end

mutual
/-- The cases of a tree. -/
def caseTally : TestNode → Tally
  | .case c => .one c.status
  | .group _ children => caseTallyOf children

/-- The cases of several trees. -/
def caseTallyOf : List TestNode → Tally
  | [] => .zero
  | n :: ns => n.caseTally + caseTallyOf ns
end

end TestNode

/-! ## Counting over a stack -/

namespace TestGroup

/-- The groups among the members of a group. -/
def subgroups (g : TestGroup) : List TestGroup := g.children.filterMap TestNode.group?

/-- The cases among the members of a group. -/
def ownCases (g : TestGroup) : List TestCase := g.children.filterMap TestNode.case?

/-- How many groups there are on a stack and inside of its groups. -/
def weight (stack : List TestGroup) : Nat :=
  total (stack.map fun g => g.toNode.groupTally.total)

@[simp] theorem weight_cons (g : TestGroup) (stack : List TestGroup) :
    weight (g :: stack) = g.toNode.groupTally.total + weight stack := by simp [weight]

@[simp] theorem weight_append (as bs : List TestGroup) :
    weight (as ++ bs) = weight as + weight bs := by simp [weight]

@[simp] theorem weight_reverse (stack : List TestGroup) :
    weight stack.reverse = weight stack := by simp [weight]

theorem weight_filterMap_group? (ns : List TestNode) :
    weight (ns.filterMap TestNode.group?) = (TestNode.groupTallyOf ns).total := by
  induction ns with
  | nil => rfl
  | cons n ns ih =>
    cases n with
    | case c =>
      rw [List.filterMap_cons_none rfl, ih, TestNode.groupTallyOf, TestNode.groupTally]
      simp [Tally.zero]
    | group description children =>
      have hg : (TestNode.group description children).group? = some ⟨description, children⟩ := rfl
      rw [List.filterMap_cons_some hg, weight_cons, ih, TestNode.groupTallyOf]
      rfl

/-- A group counts one more than the groups among its members. -/
theorem total_groupTally (g : TestGroup) :
    g.toNode.groupTally.total = 1 + weight g.subgroups := by
  rw [subgroups, weight_filterMap_group?, toNode, TestNode.groupTally, Tally.total_add]
  cases TestNode.status (.group g.description g.children) <;> rfl

/-- Replacing a group on a stack by those among its members leaves less to count. -/
theorem weight_open_lt (g : TestGroup) (stack : List TestGroup) :
    weight (g.subgroups.reverse ++ stack) < weight (g :: stack) := by
  rw [weight_append, weight_reverse, weight_cons, total_groupTally]
  omega

/-- Counts the groups on a stack and inside of its groups, on top of a tally. -/
def countGroups (t : Tally) : List TestGroup → Tally
  | [] => t
  | g :: stack => countGroups (t + .one g.status) (g.subgroups.reverse ++ stack)
termination_by stack => weight stack
decreasing_by exact weight_open_lt g stack

/-- Counts the cases in the groups on a stack, on top of a tally. -/
def countCases (t : Tally) : List TestGroup → Tally
  | [] => t
  | g :: stack =>
    countCases (g.ownCases.foldl (fun t c => t + .one c.status) t) (g.subgroups.reverse ++ stack)
termination_by stack => weight stack
decreasing_by exact weight_open_lt g stack

/-- **Counts a group and the groups in it.** -/
def groupTally (g : TestGroup) : Tally := countGroups .zero [g]

/-- **Counts the cases in a group.** -/
def caseTally (g : TestGroup) : Tally := countCases .zero [g]

end TestGroup

/-- **The counts of a run.** -/
structure Counters where
  files : Tally
  groups : Tally
  cases : Tally
  deriving DecidableEq, Repr, Inhabited

/-- The counts of a run without files. -/
def Counters.zero : Counters := ⟨.zero, .zero, .zero⟩

/-- **The results of a run**: the files recorded so far and their counts. -/
structure RunResult where
  files : List FileResult
  counters : Counters
  /-- How long the run took. -/
  milliseconds : Int

namespace RunResult

/-- A run without results. -/
def empty : RunResult := ⟨[], .zero, 0⟩

/-- **Records the results of a file.** -/
def record (run : RunResult) (file : FileResult) : RunResult :=
  { run with
    files := run.files ++ [file],
    counters :=
      { files := run.counters.files + .one file.status,
        groups := file.groups.foldl (fun t g => t + g.groupTally) run.counters.groups,
        cases := file.groups.foldl (fun t g => t + g.caseTally) run.counters.cases } }

/-- **The run that recorded some files**, one after the other. -/
def ofFiles (files : List FileResult) : RunResult := files.foldl record empty

/-- The same run with the time it took. -/
def lasting (run : RunResult) (milliseconds : Int) : RunResult :=
  { run with milliseconds := milliseconds }

/-- What a run tells the caller of the program: 1 if a case failed, else 0. -/
def exitCode (run : RunResult) : Nat := if 0 < run.counters.cases.failed then 1 else 0

end RunResult

end TypeTest
