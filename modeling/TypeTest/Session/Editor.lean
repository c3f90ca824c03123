import TypeTest.Diagnostic
import TypeTest.Discovery.Assertion

/-!
# Editor sessions

An editor asks a session for the diagnostics of a file at a time. `withTests` turns
a session into one that **adds an error on every failing assertion**: what the
session itself reports is never altered, and where something is added the whole is
brought into the standard order. A session keeps a log; what it writes there while
answering is part of the session too, so that sessions can be wrapped in each
other.
-/

namespace TypeTest

variable {ν : Type}

/-- **A session of an editor.** -/
structure EditorSession (ν : Type) where
  /-- The program, once there is one. -/
  program : Option (HostProgram ν)
  /-- The diagnostics of the file with a name. -/
  diagnostics : String → List Diagnostic
  /-- What is logged while these are computed. -/
  notes : String → List String

/-- The code of the diagnostics on failing assertions. -/
def failingTestCode : String := "readable-test-types"

/-- A message as it is logged. -/
def logged (message : String) : String := "Readable-Types:: " ++ message

/-- The diagnostic on a failing call. -/
def failingTest (file : SourceFile ν) (call : ν) (payload : Sentinel.Payload) : Diagnostic :=
  let range := file.range call
  { file := file.name, start := range.start, length := range.length, code := failingTestCode,
    message := "Test is failing: " ++ payload.message, severity := .error }

/-- The diagnostic on a node, if it is a failing call. -/
def failingTest? (file : SourceFile ν) (oracle : TypeOracle ν) (n : ν) : Option Diagnostic :=
  if (file.shape n).isCall then (oracle.failure? n).map (failingTest file n) else none

/-- **The diagnostics on the failing calls of a file**, in source order, collected by a loop
over a stack. -/
def failingTests (file : SourceFile ν) (oracle : TypeOracle ν) : List Diagnostic :=
  file.traversal.loop (fun n => [n].filterMap (failingTest? file oracle)) [file.root]

theorem failingTests_eq_filterMap (file : SourceFile ν) (oracle : TypeOracle ν) :
    failingTests file oracle = (file.callsWithin file.root).filterMap fun call =>
      (oracle.failure? call).map (failingTest file call) := by
  rw [failingTests, Traversal.loop_singleton, SourceFile.callsWithin_eq, List.filterMap_filter]
  exact (List.filterMap_flatMap ..).symm.trans (congrArg _ (List.flatMap_singleton' _))

namespace EditorSession

/-- The file with a name and the type information about it, if there is one. -/
def file? (s : EditorSession ν) (name : String) : Option (SourceFile ν × TypeOracle ν) := do
  let program ← s.program
  let file ← program.file? name
  return (file, program.oracle)

/-- The diagnostics of a file with those on its failing assertions. -/
def testedDiagnostics (s : EditorSession ν) (name : String) : List Diagnostic :=
  match s.file? name with
  | none => s.diagnostics name
  | some (file, oracle) =>
    match failingTests file oracle with
    | [] => s.diagnostics name
    | failing => Diagnostic.sortUnique (s.diagnostics name ++ failing)

/-- **The session that also reports failing assertions.** It notes when it is asked
for a file that it does not have. -/
def withTests (s : EditorSession ν) : EditorSession ν where
  program := s.program
  diagnostics := s.testedDiagnostics
  notes name :=
    s.notes name ++ if (s.file? name).isNone then [logged "SourceFile not found"] else []

@[simp] theorem file?_withTests (s : EditorSession ν) (name : String) :
    s.withTests.file? name = s.file? name := rfl

end EditorSession

/-! ## Sessions with their log -/

/-- **A session in use**, with what was logged so far. -/
structure LiveSession (ν : Type) where
  session : EditorSession ν
  log : List String

namespace LiveSession

/-- Wraps a session, with what it logged before, to report failing assertions. -/
def load (s : EditorSession ν) (log : List String) : LiveSession ν :=
  ⟨s.withTests, log ++ [logged "readable-types-plugin loaded"]⟩

/-- The diagnostics of a file, and the session after the question. -/
def ask (s : LiveSession ν) (name : String) : List Diagnostic × LiveSession ν :=
  (s.session.diagnostics name, { s with log := s.log ++ s.session.notes name })

/-- The session after a message was written to its log. -/
def write (s : LiveSession ν) (message : String) : LiveSession ν :=
  { s with log := s.log ++ [message] }

end LiveSession

end TypeTest
