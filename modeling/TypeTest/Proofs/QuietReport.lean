import TypeTest.Proofs.Counters
import TypeTest.Report.Render

/-!
# What a quiet report shows

Three conditions decide where a line goes: whether it stands for something that failed,
whether the report is verbose, and whether the summary repeats it. They are not
independent. **A quiet report is the verbose report of less**: take every passing group
and every passing case out of a run (`RunResult.withoutPassing`), and what is left is shown
either way. And **what the summary repeats is the quiet body** but for the headings of the
passing files, which are the only lines of a quiet body that tell of nothing failed. So the
summary does not depend on `verbose`, and passing groups and cases can be told from a
quiet report by its counts alone.

Taking passing results out leaves every status as it was, since a tree is failed by its
failed cases and these stay (`TestNode.casesOf_failedParts`).
-/

namespace TypeTest

/-! ## Results without what passes -/

namespace TestNode

mutual
/-- **What is failed of a tree**: a failed case, or a failed group with what is failed of
its members. -/
def failedPart : TestNode → List TestNode
  | .case c => if c.status.isFailed then [.case c] else []
  | .group description children =>
    if (status (.group description children)).isFailed then
      [.group description (failedParts children)]
    else []

/-- What is failed of several trees. -/
def failedParts : List TestNode → List TestNode
  | [] => []
  | n :: ns => n.failedPart ++ failedParts ns
end

theorem casesOf_append (ns ms : List TestNode) : casesOf (ns ++ ms) = casesOf ns ++ casesOf ms := by
  rw [casesOf_eq, casesOf_eq, casesOf_eq, List.flatMap_append]

theorem isFailed_eq_false_iff (n : TestNode) :
    n.status.isFailed = false ↔ ∀ c ∈ n.cases, c.status.isFailed = false := by
  rw [← Bool.not_eq_true, Status.isFailed_iff, status_eq_failed_iff]
  simp only [not_exists, not_and, ← Status.isFailed_iff, Bool.not_eq_true]

mutual
/-- The cases of what is failed of a tree are its failed cases. -/
theorem casesOf_failedPart :
    ∀ n : TestNode, casesOf n.failedPart = n.cases.filter (·.status.isFailed)
  | .case c => by
    rw [failedPart, cases]
    cases hc : c.status.isFailed <;> simp [casesOf, cases, hc]
  | .group description children => by
    cases hs : (status (.group description children)).isFailed with
    | true =>
      rw [failedPart, if_pos hs, casesOf, casesOf, List.append_nil, cases, cases,
        casesOf_failedParts children]
    | false =>
      rw [failedPart, if_neg (by rw [hs]; exact Bool.false_ne_true), casesOf]
      exact (List.filter_eq_nil_iff.mpr fun c hc hf =>
        Bool.false_ne_true (((isFailed_eq_false_iff _).mp hs c hc).symm.trans hf)).symm

/-- **What is failed of several trees has their failed cases**, all of them and no others. -/
theorem casesOf_failedParts :
    ∀ ns : List TestNode, casesOf (failedParts ns) = (casesOf ns).filter (·.status.isFailed)
  | [] => rfl
  | n :: ns => by
    rw [failedParts, casesOf_append, casesOf_failedPart n, casesOf_failedParts ns, casesOf,
      List.filter_append]
end

/-- **A group keeps its status** when what passes in it is taken out. -/
theorem status_failedParts (description : String) (ns : List TestNode) :
    status (.group description (failedParts ns)) = status (.group description ns) := by
  have h : anyFailed (failedParts ns) = anyFailed ns := by
    rw [Bool.eq_iff_iff, anyFailed_iff, anyFailed_iff, casesOf_failedParts]
    simp only [List.mem_filter, Status.isFailed_iff, and_assoc, and_self]
  rw [status, status, h]

end TestNode

/-- **A group without what passes in it.** -/
def TestGroup.withoutPassing (g : TestGroup) : TestGroup :=
  ⟨g.description, TestNode.failedParts g.children⟩

theorem TestGroup.failedPart_toNode (g : TestGroup) :
    g.toNode.failedPart = if g.status.isFailed then [g.withoutPassing.toNode] else [] := rfl

namespace FileResult

/-- **A file without what passes in it**: its failed groups without what passes in them. The
file itself stays. -/
def withoutPassing (f : FileResult) : FileResult where
  name := f.name
  groups := (f.groups.filter (·.status.isFailed)).map TestGroup.withoutPassing

/-- What is failed of the groups of a file are its failed groups without what passes. -/
theorem map_toNode_withoutPassing (f : FileResult) :
    f.withoutPassing.groups.map TestGroup.toNode
      = TestNode.failedParts (f.groups.map TestGroup.toNode) := by
  rw [withoutPassing]
  induction f.groups with
  | nil => rfl
  | cons g gs ih =>
    rw [List.map_cons, TestNode.failedParts, ← ih, TestGroup.failedPart_toNode, List.filter_cons]
    split <;> rfl

theorem status_withoutPassing (f : FileResult) : f.withoutPassing.status = f.status := by
  rw [status, status, withoutPassing, List.any_map, List.any_filter]
  refine congrArg Status.ofFailed (congrArg f.groups.any (funext fun g => ?_))
  have hg : g.withoutPassing.status = g.status := TestNode.status_failedParts _ _
  rw [Function.comp_apply, hg, Bool.and_self]

end FileResult

/-- **A run without what passes**: the same files, counts and time. -/
def RunResult.withoutPassing (run : RunResult) : RunResult :=
  { run with files := run.files.map FileResult.withoutPassing }

/-! ## Lines of trees -/

/-- The lines of a failure are all repeated. -/
theorem repeated_of_mem_failureLines {fileName : String} {depth : Nat} {detail : FailureDetail}
    {line : ReportLine} (h : line ∈ failureLines fileName depth detail) : line.repeated = true := by
  simp only [failureLines, List.mem_append, List.mem_cons, List.mem_map, List.not_mem_nil,
    or_false] at h
  rcases h with (((h | ⟨_, _, rfl⟩) | rfl) | ⟨_, _, rfl⟩) | h
  · rcases h with rfl | rfl | rfl | rfl | rfl <;> rfl
  · rfl
  · rfl
  · rfl
  · rcases h with rfl | rfl <;> rfl

/-- **The lines of a failed case do not depend on `verbose`**, and all of them are repeated. -/
theorem caseLines_of_failed {c : TestCase} (h : c.status.isFailed = true) (verbose : Bool)
    (fileName : String) (depth : Nat) :
    caseLines verbose fileName depth c = caseLines false fileName depth c
      ∧ ∀ line ∈ caseLines verbose fileName depth c, line.repeated = true := by
  obtain ⟨detail, hv⟩ : ∃ detail, c.verdict = .fail detail := by
    cases hv : c.verdict with
    | pass =>
      rw [TestCase.status, hv] at h
      cases h
    | fail detail => exact ⟨detail, rfl⟩
  unfold caseLines
  rw [hv]
  refine ⟨rfl, fun line hl => ?_⟩
  simp only [List.mem_append, List.mem_cons, List.not_mem_nil, or_false] at hl
  rcases hl with ((rfl | rfl) | hl) | rfl
  · rfl
  · rfl
  · exact repeated_of_mem_failureLines hl
  · rfl

/-- **A passing case has a line in a verbose report**, which is not repeated. -/
theorem caseLines_of_passed {c : TestCase} (h : c.status.isFailed = false) (verbose : Bool)
    (fileName : String) (depth : Nat) :
    caseLines verbose fileName depth c
      = if verbose then [⟨depth, "✓ " ++ c.description, false⟩] else [] := by
  unfold caseLines
  cases hv : c.verdict with
  | pass => rfl
  | fail detail =>
    rw [TestCase.status, hv] at h
    cases h

/-- The summary repeats the heading of a group if a quiet report shows it. -/
theorem filter_groupHeading (verbose : Bool) (depth : Nat) (description : String)
    (status : Status) :
    (groupHeading verbose depth description status).filter (·.repeated)
      = groupHeading false depth description status := by
  unfold groupHeading
  cases status.isFailed <;> cases verbose <;> rfl

theorem nodeLinesOf_append (verbose : Bool) (fileName : String) (depth : Nat)
    (ns ms : List TestNode) :
    nodeLinesOf verbose fileName depth (ns ++ ms)
      = nodeLinesOf verbose fileName depth ns ++ nodeLinesOf verbose fileName depth ms := by
  induction ns with
  | nil => rfl
  | cons n ns ih => rw [List.cons_append, nodeLinesOf, nodeLinesOf, ih, List.append_assoc]

/-- Nothing is failed of trees that pass. -/
theorem TestNode.failedParts_of_passed {ns : List TestNode} (h : anyFailed ns = false) :
    failedParts ns = [] := by
  induction ns with
  | nil => rfl
  | cons n ns ih =>
    obtain ⟨hn, hns⟩ := Bool.or_eq_false_iff.mp h
    rw [failedParts, ih hns, List.append_nil]
    cases n with
    | case c => exact if_neg (ne_true_of_eq_false hn)
    | group description children => exact if_neg (ne_true_of_eq_false hn)

mutual
/-- **A tree in a quiet report is what is failed of it in a verbose one.** -/
theorem nodeLines_false (fileName : String) (depth : Nat) :
    ∀ n : TestNode,
      nodeLines false fileName depth n = nodeLinesOf true fileName depth n.failedPart
  | .case c => by
    rw [TestNode.failedPart, nodeLines]
    cases hc : c.status.isFailed with
    | true =>
      rw [if_pos rfl, nodeLinesOf, nodeLinesOf, nodeLines, List.append_nil]
      exact (caseLines_of_failed hc true fileName depth).1.symm
    | false => exact caseLines_of_passed hc false fileName depth
  | .group description children => by
    rw [TestNode.failedPart, nodeLines, nodeLinesOf_false fileName (depth + 1) children]
    cases hs : (TestNode.status (.group description children)).isFailed with
    | true =>
      rw [if_pos rfl, nodeLinesOf, nodeLinesOf, nodeLines, TestNode.status_failedParts,
        List.append_nil, groupHeading, groupHeading, hs]
      rfl
    | false =>
      have hchildren : TestNode.anyFailed children = false := by
        rwa [TestNode.status, Status.isFailed_ofFailed] at hs
      rw [groupHeading, hs, TestNode.failedParts_of_passed hchildren]
      rfl

theorem nodeLinesOf_false (fileName : String) (depth : Nat) :
    ∀ ns : List TestNode,
      nodeLinesOf false fileName depth ns
        = nodeLinesOf true fileName depth (TestNode.failedParts ns)
  | [] => rfl
  | n :: ns => by
    rw [nodeLinesOf, TestNode.failedParts, nodeLinesOf_append, nodeLines_false fileName depth n,
      nodeLinesOf_false fileName depth ns]
end

mutual
/-- **The summary repeats of a tree what a quiet report shows of it.** -/
theorem filter_nodeLines (verbose : Bool) (fileName : String) (depth : Nat) :
    ∀ n : TestNode,
      (nodeLines verbose fileName depth n).filter (·.repeated) = nodeLines false fileName depth n
  | .case c => by
    rw [nodeLines, nodeLines]
    cases hc : c.status.isFailed with
    | true =>
      obtain ⟨hlines, hrepeated⟩ := caseLines_of_failed hc verbose fileName depth
      rw [List.filter_eq_self.mpr hrepeated, hlines]
    | false =>
      rw [caseLines_of_passed hc, caseLines_of_passed hc]
      cases verbose <;> rfl
  | .group description children => by
    rw [nodeLines, nodeLines, List.filter_append, filter_groupHeading,
      filter_nodeLinesOf verbose fileName (depth + 1) children]

theorem filter_nodeLinesOf (verbose : Bool) (fileName : String) (depth : Nat) :
    ∀ ns : List TestNode,
      (nodeLinesOf verbose fileName depth ns).filter (·.repeated)
        = nodeLinesOf false fileName depth ns
  | [] => rfl
  | n :: ns => by
    rw [nodeLinesOf, nodeLinesOf, List.filter_append, filter_nodeLines verbose fileName depth n,
      filter_nodeLinesOf verbose fileName depth ns]
end

mutual
/-- **The lines of a case stand together among those of a tree** that it is in. -/
theorem exists_caseLines_infix (verbose : Bool) (fileName : String) {c : TestCase} :
    ∀ (n : TestNode) (depth : Nat), c ∈ n.cases →
      ∃ d, caseLines verbose fileName d c <:+: nodeLines verbose fileName depth n
  | .case own, depth, h => by
    obtain rfl : c = own := List.mem_singleton.mp h
    exact ⟨depth, List.infix_rfl⟩
  | .group description children, depth, h => by
    obtain ⟨d, hd⟩ := exists_caseLines_infix_of verbose fileName children (depth + 1) h
    exact ⟨d, hd.trans (List.suffix_append _ _).isInfix⟩

theorem exists_caseLines_infix_of (verbose : Bool) (fileName : String) {c : TestCase} :
    ∀ (ns : List TestNode) (depth : Nat), c ∈ TestNode.casesOf ns →
      ∃ d, caseLines verbose fileName d c <:+: nodeLinesOf verbose fileName depth ns
  | [], _, h => absurd h List.not_mem_nil
  | n :: ns, depth, h => by
    rcases List.mem_append.mp h with h | h
    · obtain ⟨d, hd⟩ := exists_caseLines_infix verbose fileName n depth h
      exact ⟨d, hd.trans (List.prefix_append _ _).isInfix⟩
    · obtain ⟨d, hd⟩ := exists_caseLines_infix_of verbose fileName ns depth h
      exact ⟨d, hd.trans (List.suffix_append _ _).isInfix⟩
end

/-! ## Files and runs -/

theorem fileHeading_withoutPassing (f : FileResult) :
    fileHeading f.withoutPassing = fileHeading f := by
  rw [fileHeading, fileHeading, f.status_withoutPassing]
  rfl

/-- **A file in a quiet report is the file without what passes in a verbose one.** -/
theorem fileLines_false (f : FileResult) : fileLines false f = fileLines true f.withoutPassing := by
  rw [fileLines_eq, fileLines_eq, fileHeading_withoutPassing, nodeLinesOf_false,
    f.map_toNode_withoutPassing]
  rfl

/-- **A quiet body is the verbose body of the run without what passes.** -/
theorem bodyLines_false (run : RunResult) :
    bodyLines false run = bodyLines true run.withoutPassing := by
  rw [bodyLines, bodyLines, RunResult.withoutPassing, List.flatMap_map]
  exact congrArg run.files.flatMap (funext fileLines_false)

/-- **The lines of a file in a quiet report, less its heading if the file passes.** -/
def FileResult.failedLines (f : FileResult) : List ReportLine :=
  if f.status = .passed then (fileLines false f).tail else fileLines false f

theorem filter_fileLines (verbose : Bool) (f : FileResult) :
    (fileLines verbose f).filter (·.repeated) = f.failedLines := by
  rw [FileResult.failedLines, fileLines_eq, fileLines_eq, fileHeading, List.filter_cons,
    filter_nodeLinesOf]
  cases f.status <;> rfl

/-- **The summary repeats the quiet body, less the headings of the files that pass.** -/
theorem filter_bodyLines (verbose : Bool) (run : RunResult) :
    (bodyLines verbose run).filter (·.repeated) = run.files.flatMap FileResult.failedLines := by
  rw [bodyLines, List.filter_flatMap]
  exact congrArg run.files.flatMap (funext (filter_fileLines verbose))

/-- The lines of the groups of a file in a quiet report are all repeated. -/
theorem nodeLinesOf_suffix_failedLines (f : FileResult) :
    nodeLinesOf false f.name 1 (f.groups.map (·.toNode)) <:+ f.failedLines := by
  rw [FileResult.failedLines, fileLines_eq]
  split
  · exact List.suffix_rfl
  · exact List.suffix_cons _ _

/-- **No failure is left out** of what a summary repeats: the failed cases of each file are there
with all of their lines. -/
theorem exists_failure_infix {run : RunResult} {f : FileResult} (hf : f ∈ run.files)
    {c : TestCase} (hc : c ∈ f.allCases) {detail : FailureDetail}
    (hv : c.verdict = .fail detail) :
    ∃ depth, [⟨depth, "⨯ " ++ c.description, true⟩, ⟨depth, "", true⟩]
        ++ failureLines f.name (depth + 1) detail ++ [⟨depth, "", true⟩]
      <:+: run.files.flatMap FileResult.failedLines := by
  have hcases : c ∈ TestNode.casesOf (f.groups.map (·.toNode)) := by
    obtain ⟨g, hg, hc⟩ := List.mem_flatMap.mp hc
    rw [TestNode.mem_casesOf]
    exact ⟨g.toNode, List.mem_map_of_mem hg, hc⟩
  obtain ⟨depth, hinfix⟩ := exists_caseLines_infix_of false f.name _ 1 hcases
  rw [caseLines, hv] at hinfix
  refine ⟨depth, hinfix.trans ((nodeLinesOf_suffix_failedLines f).isInfix.trans ?_)⟩
  rw [List.flatMap_def]
  exact List.infix_of_mem_flatten (List.mem_map_of_mem hf)

/-- **The counts of a run as a report shows them**, and the time that it took. -/
def RunResult.countLines (run : RunResult) : String :=
  tallyLine "Tests:" run.counters.cases ++ "\n" ++
    tallyLine "Groups:" run.counters.groups ++ "\n" ++
    tallyLine "Test Suites:" run.counters.files ++ "\n" ++
    padRight 13 "Time:" ++ seconds run.milliseconds ++ " s\n"

/-- **The summary repeats lines** between its heading and the counts. -/
theorem summary_eq (run : RunResult) (repeated : List ReportLine) :
    summary run repeated
      = "\nSummary:\n\n" ++ ReportLine.renderAll repeated ++ run.countLines := by
  unfold summary RunResult.countLines
  simp only [String.append_assoc]

/-- **A report is a body and a summary.** The summary is the same for a verbose and a quiet
report: between its heading and the counts it repeats the quiet body less the headings of the
files that pass, and all lines of each failed case are there. The quiet body is the verbose body of the run without its passing groups and
cases, and so is the whole report, so runs that differ in these alone have the same quiet
report. -/
theorem render_eq_of_withoutPassing (run : RunResult) :
    (∀ verbose, render run verbose
        = ReportLine.renderAll (bodyLines verbose run)
          ++ summary run (run.files.flatMap FileResult.failedLines))
      ∧ (∀ repeated, summary run repeated
        = "\nSummary:\n\n" ++ ReportLine.renderAll repeated ++ run.countLines)
      ∧ (∀ f ∈ run.files, ∀ c ∈ f.allCases, ∀ detail, c.verdict = .fail detail →
          ∃ depth, [⟨depth, "⨯ " ++ c.description, true⟩, ⟨depth, "", true⟩]
              ++ failureLines f.name (depth + 1) detail ++ [⟨depth, "", true⟩]
            <:+: run.files.flatMap FileResult.failedLines)
      ∧ bodyLines false run = bodyLines true run.withoutPassing
      ∧ render run false = render run.withoutPassing true
      ∧ ∀ run' : RunResult, run'.withoutPassing = run.withoutPassing →
          render run' false = render run false := by
  have hquiet : ∀ run : RunResult, render run false = render run.withoutPassing true := by
    intro run
    rw [render, render, ← bodyLines_false]
    rfl
  refine ⟨fun verbose => ?_, summary_eq run, fun f hf c hc detail => exists_failure_infix hf hc,
    bodyLines_false run, hquiet run, fun run' h => ?_⟩
  · rw [render, filter_bodyLines]
  · rw [hquiet, hquiet, h]

end TypeTest
