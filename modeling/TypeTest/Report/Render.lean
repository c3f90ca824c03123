import TypeTest.Report.Tally
import TypeTest.Text.Blank
import TypeTest.Traversal

/-!
# The report of a run

A report is a **body**, a line at a time, followed by a **summary**. Every line of
the body carries whether it is repeated in the summary, which is decided where the
line is made: what belongs to a failure is repeated, the rest is not. So the
summary needs no second reading of the results, and whether passing tests are shown
changes nothing in it.

The lines of a tree of results are defined by recursion (`nodeLines`). Those of a file come from
a loop over a stack of trees with their depths (`fileLines`), which is shown to give the same
(`fileLines_eq`).
-/

namespace TypeTest

/-- **A line of the body** of a report. -/
structure ReportLine where
  /-- How far it is indented. -/
  depth : Nat
  text : String
  /-- Whether the summary repeats it. -/
  repeated : Bool
  deriving DecidableEq, Repr

namespace ReportLine

/-- A line as text: an empty one is not indented. -/
def render (line : ReportLine) : String :=
  if line.text.isEmpty then "\n"
  else String.ofList (List.replicate (2 * line.depth) ' ') ++ line.text ++ "\n"

/-- Lines as text. -/
def renderAll (lines : List ReportLine) : String := String.join (lines.map render)

end ReportLine

/-- A text brought to a width by blanks on its left. -/
def padLeft (width : Nat) (text : String) : String :=
  String.ofList (List.replicate (width - text.length) ' ') ++ text

/-- A text brought to a width by blanks on its right. -/
def padRight (width : Nat) (text : String) : String :=
  text ++ String.ofList (List.replicate (width - text.length) ' ')

/-! ## Failures -/

/-- A numbered source line, marked if it is the failing one. -/
def numberedLine (width : Nat) (marked : Bool) (number : Nat) (text : String) : String :=
  String.ofList (trimEnd ((if marked then "> " else "  ") ++ padLeft width (toString number) ++
    " | " ++ text).toList)

/-- The carets under a failing line: one for each character of the line that the
failing range covers, at least one. -/
def caretLine (width : Nat) (location : Location) (text : String) : String :=
  let covered := takeBytes location.length (text.toList.drop location.column)
  "  " ++ padLeft width "" ++ " | " ++ String.ofList (List.replicate location.column ' ') ++
    String.ofList (List.replicate (max covered.length 1) '^')

/-- The source lines around a failure, numbered from one. -/
def excerptLines (detail : FailureDetail) : List String :=
  let excerpt := detail.excerpt
  let width := (toString (excerpt.firstLine + excerpt.lines.length)).length
  (excerpt.lines.zipIdx excerpt.firstLine).flatMap fun (text, line) =>
    let marked := line == detail.location.line
    numberedLine width marked (line + 1) text ::
      if marked then [caretLine width detail.location text] else []

/-- The lines of a failure message; the first one says that it is an error. -/
def messageLines : List String → List String
  | [] => ["Error: "]
  | first :: more => ("Error: " ++ first) :: more.map ("       " ++ ·)

/-- **The lines of a failure**, all of them repeated. -/
def failureLines (fileName : String) (depth : Nat) (detail : FailureDetail) : List ReportLine :=
  [⟨depth, "Received:", true⟩, ⟨depth + 1, detail.received, true⟩,
    ⟨depth, "Expected:", true⟩, ⟨depth + 1, detail.shownExpected.getD "", true⟩,
    ⟨depth, "", true⟩] ++
  (messageLines detail.message).map (⟨depth, ·, true⟩) ++
  [⟨depth, "", true⟩] ++
  (excerptLines detail).map (⟨depth, ·, true⟩) ++
  [⟨depth, "", true⟩,
    ⟨depth, "at " ++ fileName ++ ":" ++ detail.location.lineColumn.display, true⟩]

/-! ## Results -/

/-- The lines of a case. A passing one is shown if `verbose` is set. -/
def caseLines (verbose : Bool) (fileName : String) (depth : Nat) (c : TestCase) :
    List ReportLine :=
  match c.verdict with
  | .pass => if verbose then [⟨depth, "✓ " ++ c.description, false⟩] else []
  | .fail detail =>
    [⟨depth, "⨯ " ++ c.description, true⟩, ⟨depth, "", true⟩] ++
      failureLines fileName (depth + 1) detail ++ [⟨depth, "", true⟩]

/-- The heading of a group. That of a passing one is shown if `verbose` is set. -/
def groupHeading (verbose : Bool) (depth : Nat) (description : String) (status : Status) :
    List ReportLine :=
  if status.isFailed || verbose then [⟨depth, description, status.isFailed⟩] else []

mutual
/-- The lines of a tree of results. -/
def nodeLines (verbose : Bool) (fileName : String) (depth : Nat) : TestNode → List ReportLine
  | .case c => caseLines verbose fileName depth c
  | .group description children =>
    groupHeading verbose depth description (TestNode.status (.group description children)) ++
      nodeLinesOf verbose fileName (depth + 1) children

/-- The lines of several trees of results. -/
def nodeLinesOf (verbose : Bool) (fileName : String) (depth : Nat) :
    List TestNode → List ReportLine
  | [] => []
  | n :: ns => nodeLines verbose fileName depth n ++ nodeLinesOf verbose fileName depth ns
end

/-! ### The loop -/

/-- The lines of a tree of results at a depth, less those of its members. -/
def itemLines (verbose : Bool) (fileName : String) : TestNode × Nat → List ReportLine
  | (.case c, depth) => caseLines verbose fileName depth c
  | (.group description children, depth) =>
    groupHeading verbose depth description (TestNode.status (.group description children))

namespace TestNode

/-- The members of a tree of results, one level deeper. -/
def members : TestNode × Nat → List (TestNode × Nat)
  | (.case _, _) => []
  | (.group _ children, depth) => children.map (·, depth + 1)

mutual
/-- A tree of results and the trees in it, each with its depth. -/
def items (depth : Nat) : TestNode → List (TestNode × Nat)
  | .case c => [(.case c, depth)]
  | .group description children =>
    (.group description children, depth) :: itemsOf (depth + 1) children

/-- Several trees of results and the trees in them. -/
def itemsOf (depth : Nat) : List TestNode → List (TestNode × Nat)
  | [] => []
  | n :: ns => n.items depth ++ itemsOf depth ns
end

theorem itemsOf_eq (depth : Nat) (ns : List TestNode) :
    itemsOf depth ns = (ns.map (·, depth)).flatMap fun item => item.1.items item.2 := by
  induction ns with
  | nil => rfl
  | cons n ns ih => rw [itemsOf, ih, List.map_cons, List.flatMap_cons]

/-- The way through the trees of results. -/
def traversal : Traversal (TestNode × Nat) where
  below := members
  preorder item := item.1.items item.2
  preorder_eq := by
    rintro ⟨n, depth⟩
    cases n with
    | case c => rfl
    | group description children =>
      exact congrArg (List.cons (.group description children, depth))
        (itemsOf_eq (depth + 1) children)

mutual
/-- The lines of a tree are those of the trees in it, one after the other. -/
theorem flatMap_items (verbose : Bool) (fileName : String) (depth : Nat) :
    ∀ n : TestNode,
      (n.items depth).flatMap (itemLines verbose fileName) = nodeLines verbose fileName depth n
  | .case c => by
    rw [items, List.flatMap_singleton]
    rfl
  | .group description children => by
    rw [items, List.flatMap_cons, flatMap_itemsOf verbose fileName (depth + 1) children]
    rfl

theorem flatMap_itemsOf (verbose : Bool) (fileName : String) (depth : Nat) :
    ∀ ns : List TestNode,
      (itemsOf depth ns).flatMap (itemLines verbose fileName)
        = nodeLinesOf verbose fileName depth ns
  | [] => rfl
  | n :: ns => by
    rw [itemsOf, List.flatMap_append, flatMap_items verbose fileName depth n,
      flatMap_itemsOf verbose fileName depth ns, nodeLinesOf]
end

end TestNode

/-- The heading of a file. -/
def fileHeading (file : FileResult) : ReportLine :=
  match file.status with
  | .failed => ⟨0, " FAIL  " ++ file.name, true⟩
  | .passed => ⟨0, " PASS  " ++ file.name, false⟩

/-- **The lines of a file**: its heading, and then what a loop over a stack of results emits. -/
def fileLines (verbose : Bool) (file : FileResult) : List ReportLine :=
  fileHeading file ::
    TestNode.traversal.loop (itemLines verbose file.name) (file.groups.map fun g => (g.toNode, 1))

theorem fileLines_eq (verbose : Bool) (file : FileResult) :
    fileLines verbose file
      = fileHeading file :: nodeLinesOf verbose file.name 1 (file.groups.map (·.toNode)) := by
  rw [fileLines, Traversal.loop_eq, ← TestNode.flatMap_itemsOf, TestNode.itemsOf_eq, List.map_map]
  rfl

/-- **The lines of the body** of a report. -/
def bodyLines (verbose : Bool) (run : RunResult) : List ReportLine :=
  run.files.flatMap (fileLines verbose)

/-! ## Summary -/

/-- A line of counts. -/
def tallyLine (label : String) (tally : Tally) : String :=
  padRight 13 label ++ toString tally.failed ++ " failed, " ++ toString tally.passed ++
    " passed, " ++ toString tally.total ++ " total"

/-- Milliseconds as seconds with three decimals. -/
def seconds (milliseconds : Int) : String :=
  let n := milliseconds.natAbs
  let decimals := toString (n % 1000)
  (if milliseconds < 0 then "-" else "") ++ toString (n / 1000) ++ "." ++
    String.ofList (List.replicate (3 - decimals.length) '0') ++ decimals

/-- **The summary**: the repeated lines, the counts and the time. -/
def summary (run : RunResult) (repeated : List ReportLine) : String :=
  "\nSummary:\n\n" ++ ReportLine.renderAll repeated ++
    tallyLine "Tests:" run.counters.cases ++ "\n" ++
    tallyLine "Groups:" run.counters.groups ++ "\n" ++
    tallyLine "Test Suites:" run.counters.files ++ "\n" ++
    padRight 13 "Time:" ++ seconds run.milliseconds ++ " s\n"

/-- **The report of a run.** Passing groups and cases are shown if `verbose` is
set. -/
def render (run : RunResult) (verbose : Bool) : String :=
  let body := bodyLines verbose run
  ReportLine.renderAll body ++ summary run (body.filter (·.repeated))

end TypeTest
