import TypeTest.Pattern
import TypeTest.Settings.Project
import TypeTest.SetupError
import TypeTest.Text.Escaped

/-!
# Settings of a run

Which files are tested and how much is shown follows from the options of the run,
then from the project file, and where neither says anything from a default. The
project's patterns and the options are not mixed: a pattern among the options
replaces the whole list of the project.
-/

namespace TypeTest

/-- **The options of a run.** -/
structure RunOptions where
  /-- Show what passes too. -/
  verbose : Bool := false
  /-- A pattern of the files to test. -/
  included : Option String := none
  /-- A pattern of the files to leave out. -/
  excluded : Option String := none
  /-- The path of a file to test. -/
  path : Option String := none
  deriving DecidableEq, Repr

namespace RunOptions

/-- A path in the form in which files are named. -/
def slashed (path : String) : String := path.map fun c => if c = '\\' then '/' else c

/-- The patterns among the options of the files to test. A path counts as one, and
before the other. -/
def inclusion (options : RunOptions) : Option (List String) :=
  match options.path with
  | some path => some [slashed path]
  | none => options.included.map ([·])

/-- The patterns among the options of the files to leave out. -/
def exclusion (options : RunOptions) : Option (List String) := options.excluded.map ([·])

end RunOptions

/-- **The settings of a run.** -/
structure RunSettings where
  /-- Show what passes too. -/
  verbose : Bool
  /-- The patterns of the files to test. -/
  included : List Pattern
  /-- The patterns of the files to leave out. -/
  excluded : List Pattern
  deriving DecidableEq, Repr

namespace RunSettings

/-- The pattern of the files to test where nothing else is said: specifications and
tests. -/
def defaultIncluded : String := ".*(\\.(spec|test)(-types)?\\.ts)$"

/-- The pattern of the files to leave out where nothing else is said: installed
packages. -/
def defaultExcluded : String := ".*node_modules.*"

/-- The pattern that a text writes. -/
def pattern (text : String) : Except SetupError Pattern :=
  match Pattern.ofText? text with
  | some p => .ok p
  | none => .error (.invalidPattern text)

/-- **The settings that follow** from options and a project file. The first text that is
no pattern is an error, and the files to test come before the files to leave out. -/
def of (options : RunOptions) (project : ProjectSettings) : Except SetupError RunSettings := do
  let included ←
    ((options.inclusion.or project.included).getD [defaultIncluded]).mapM pattern
  let excluded ←
    ((options.exclusion.or project.excluded).getD [defaultExcluded]).mapM pattern
  return ⟨options.verbose || options.path.isSome, included, excluded⟩

/-- **Whether a file is tested.** -/
def selects (settings : RunSettings) (name : String) : Bool :=
  settings.included.any (·.accepts name) && !settings.excluded.any (·.accepts name)

/-- The settings as they are shown. -/
def shown (settings : RunSettings) : String :=
  "\x7b\n  verbose: " ++ (if settings.verbose then "true" else "false") ++ ",\n"
    ++ "  include: " ++ quotedList (settings.included.map (·.text)) ++ ",\n"
    ++ "  exclude: " ++ quotedList (settings.excluded.map (·.text)) ++ ",\n\x7d"

end RunSettings

end TypeTest
