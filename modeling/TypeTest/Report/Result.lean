import TypeTest.Report.Excerpt
import TypeTest.Text.Position

/-!
# Results of tests

The results of a file form a tree: groups of tests, which hold cases and further
groups. A case passes or fails, with the detail of its failure; **the status of a
group is that of its cases**, so it is not stored but read off the tree.
-/

namespace TypeTest

/-- **The status** of a case, of a group or of a file. -/
inductive Status where
  | passed
  | failed
  deriving DecidableEq, Repr, Inhabited

namespace Status

/-- Whether a status is that of a failure. -/
def isFailed (s : Status) : Bool := s == .failed

/-- Failed if the condition holds. -/
def ofFailed (b : Bool) : Status := if b then .failed else .passed

@[simp] theorem isFailed_passed : isFailed .passed = false := rfl

@[simp] theorem isFailed_failed : isFailed .failed = true := rfl

theorem isFailed_iff {s : Status} : s.isFailed = true ↔ s = .failed := beq_iff_eq

theorem ofFailed_eq_failed_iff {b : Bool} : ofFailed b = .failed ↔ b = true := by
  cases b <;> simp [ofFailed]

@[simp] theorem isFailed_ofFailed (b : Bool) : (ofFailed b).isFailed = b := by cases b <;> rfl

end Status

/-- **Why an assertion failed and where.** -/
structure FailureDetail where
  /-- The type that the assertion was about. -/
  received : String
  /-- The type it was compared with, if the assertion is given one. -/
  expected : Option String
  /-- The expected type as the failure message shows it. -/
  simplifiedExpected : Option String
  /-- The lines of the failure message. -/
  message : List String
  location : Location
  excerpt : Excerpt
  deriving DecidableEq, Repr

/-- The expected type to show: the given one, else that of the message. -/
def FailureDetail.shownExpected (d : FailureDetail) : Option String :=
  d.expected <|> d.simplifiedExpected

/-- **The verdict** on an assertion or on a case. -/
inductive Verdict where
  | pass
  | fail (detail : FailureDetail)
  deriving DecidableEq, Repr

namespace Verdict

/-- The status that a verdict gives. -/
def status : Verdict → Status
  | .pass => .passed
  | .fail _ => .failed

/-- The detail of the failure, if there is one. -/
def detail? : Verdict → Option FailureDetail
  | .pass => none
  | .fail detail => some detail

@[simp] theorem isFailed_status (v : Verdict) : v.status.isFailed = v.detail?.isSome := by
  cases v <;> rfl

theorem detail?_eq_some_iff {v : Verdict} {detail : FailureDetail} :
    v.detail? = some detail ↔ v = .fail detail := by
  cases v <;> simp [detail?]

end Verdict

/-- A test with its verdict. -/
structure TestCase where
  description : String
  verdict : Verdict
  deriving DecidableEq, Repr

/-- The status of a case is that of its verdict. -/
def TestCase.status (c : TestCase) : Status := c.verdict.status

/-- **A tree of results**: a case, or a group of trees. -/
inductive TestNode where
  | case (c : TestCase)
  | group (description : String) (children : List TestNode)
  deriving Inhabited

namespace TestNode

mutual
/-- **The status of a tree**: failed if one of its cases is. -/
def status : TestNode → Status
  | .case c => c.status
  | .group _ children => .ofFailed (anyFailed children)

/-- Whether one of several trees is failed. -/
def anyFailed : List TestNode → Bool
  | [] => false
  | n :: ns => n.status.isFailed || anyFailed ns
end

mutual
/-- **The cases of a tree** in order. -/
def cases : TestNode → List TestCase
  | .case c => [c]
  | .group _ children => casesOf children

/-- The cases of several trees. -/
def casesOf : List TestNode → List TestCase
  | [] => []
  | n :: ns => n.cases ++ casesOf ns
end

/-- The cases of several trees are those of the trees, one after the other. -/
theorem casesOf_eq (ns : List TestNode) : casesOf ns = ns.flatMap cases := by
  induction ns with
  | nil => rfl
  | cons n ns ih => rw [casesOf, ih, List.flatMap_cons]

/-- A case of several trees is a case of one of them. -/
theorem mem_casesOf {ns : List TestNode} {c : TestCase} :
    c ∈ casesOf ns ↔ ∃ n ∈ ns, c ∈ n.cases := by
  rw [casesOf_eq, List.mem_flatMap]

end TestNode

/-- **A group of tests.** -/
structure TestGroup where
  description : String
  children : List TestNode

namespace TestGroup

/-- A group as a tree of results. -/
def toNode (g : TestGroup) : TestNode := .group g.description g.children

/-- The status of a group is that of its tree. -/
def status (g : TestGroup) : Status := g.toNode.status

end TestGroup

/-- A tree that is a group, as one. -/
def TestNode.group? : TestNode → Option TestGroup
  | .case _ => none
  | .group description children => some ⟨description, children⟩

/-- A tree that is a case, as one. -/
def TestNode.case? : TestNode → Option TestCase
  | .case c => some c
  | .group .. => none

@[simp] theorem TestGroup.group?_toNode (g : TestGroup) : g.toNode.group? = some g := rfl

/-- **The groups found in a file.** -/
structure FileResult where
  name : String
  groups : List TestGroup

/-- A file is failed if one of its groups is. -/
def FileResult.status (f : FileResult) : Status := .ofFailed (f.groups.any (·.status.isFailed))

end TypeTest
