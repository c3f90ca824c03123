import TypeTest.Script.Fault

/-!
# What can be wrong before a run

A run itself never fails: whatever is wrong with a test is a result. Before it,
files have to be read, patterns and the project file to be understood, and a host
may have errors of its own.
-/

namespace TypeTest

/-- **Why a run could not be prepared.** -/
inductive SetupError where
  /-- A file could not be read. -/
  | unreadable (file reason : String)
  /-- A file pattern is not one. -/
  | invalidPattern (pattern : String)
  /-- The project file is not one. -/
  | invalidProject (file : String)
  /-- A script was refused. -/
  | host (error : ScriptError)
  deriving DecidableEq, Repr

namespace SetupError

/-- The error in words. What is wrong with a pattern or a project file is not told
further. -/
def message : SetupError → String
  | .unreadable file reason => "I/O error on file " ++ file ++ ": " ++ reason
  | .invalidPattern pattern => "invalid file pattern " ++ pattern ++ ": "
  | .invalidProject file => "invalid configuration file " ++ file ++ ": "
  | .host error => error.message

/-- The error behind this one, in words. -/
def source : SetupError → Option String
  | .unreadable _ reason => some reason
  | .invalidPattern _ => none
  | .invalidProject _ => none
  | .host error => some error.message

end SetupError

end TypeTest
