import TypeTest.Folder.Sources
import TypeTest.Report.Render
import TypeTest.Run
import TypeTest.Script.Program

/-!
# The command line

The program tests the project in a folder. Its arguments are the options of the run;
what it writes is the report, and after a verbose one the settings that were used.
The exit code is 0 if nothing failed and 1 otherwise. Arguments that make no sense
are refused with 2, before anything is read.
-/

namespace TypeTest

namespace CommandLine

/-- An argument that is written as an option. A lone hyphen is not. -/
def isOption (argument : String) : Bool := argument.startsWith "-" && argument != "-"

/-- The value in an argument that names an option and its value at once. -/
def attached? (option argument : String) : Option String :=
  let front := option.toList ++ ['=']
  if front.isPrefixOf argument.toList then
    some (String.ofList (argument.toList.drop front.length))
  else none

/-- Sets a value that may be given once. -/
def once (given : Option String) (value : String) : Option (Option String) :=
  if given.isSome then none else some (some value)

/-- A pattern of the files to test. -/
def setIncluded (options : RunOptions) (value : String) : Option RunOptions :=
  (once options.included value).map fun v => { options with included := v }

/-- A pattern of the files to leave out. -/
def setExcluded (options : RunOptions) (value : String) : Option RunOptions :=
  (once options.excluded value).map fun v => { options with excluded := v }

/-- The path of a file to test. -/
def setPath (options : RunOptions) (value : String) : Option RunOptions :=
  (once options.path value).map fun v => { options with path := v }

/-- An argument that stands for itself: an option without a value or with an attached
one, or a path. -/
def setSingle (options : RunOptions) (argument : String) : Option RunOptions :=
  if argument = "--verbose" then
    if options.verbose then none else some { options with verbose := true }
  else
    match attached? "--include" argument, attached? "--exclude" argument with
    | some value, _ => setIncluded options value
    | none, some value => setExcluded options value
    | none, none => if isOption argument then none else setPath options argument

/-- **The options that arguments set**, after others, unless they make no sense. After
two hyphens everything is a path. -/
def options? (options : RunOptions) : List String → Option RunOptions
  | [] => some options
  | "--" :: paths => paths.foldlM setPath options
  | ["--include"] => none
  | ["--exclude"] => none
  | "--include" :: value :: rest =>
    if isOption value then none
    else (setIncluded options value).bind fun options => options? options rest
  | "--exclude" :: value :: rest =>
    if isOption value then none
    else (setExcluded options value).bind fun options => options? options rest
  | argument :: rest =>
    (setSingle options argument).bind fun options => options? options rest

/-- **What the program does for its caller.** -/
structure Outcome where
  /-- The exit code. -/
  exitCode : Nat
  /-- What it writes. -/
  output : String
  /-- What it complains about, apart from the output. -/
  complaint : Option String
  deriving DecidableEq, Repr

/-- How the program is called. -/
def usage : String := "usage: [--verbose] [--include REGEX] [--exclude REGEX] [PATH]"

/-- **The results of the tests in a folder** called `root`, and the settings they were found
with. -/
def test (root : String) (folder : Folder) (options : RunOptions) :
    Except SetupError (RunSettings × RunResult) := do
  let settings ← RunSettings.of options folder.project
  let program := ScriptProgram.ofReadable (folder.sources root)
  return (settings, program.toHost.run settings.selects)

/-- The report of a run and, after a verbose one, its settings. -/
def written (settings : RunSettings) (run : RunResult) : String :=
  render run settings.verbose
    ++ if settings.verbose then "Used configuration: " ++ settings.shown ++ "\n\n" else ""

/-- The outcome of a call that makes no sense. -/
def refused : Outcome := ⟨2, "", some usage⟩

/-- The outcome of a test that took so many milliseconds. -/
def outcome (tested : Except SetupError (RunSettings × RunResult)) (milliseconds : Int) :
    Outcome :=
  match tested with
  | .error e => ⟨1, "", some ("error: " ++ e.message)⟩
  | .ok (settings, run) => ⟨run.exitCode, written settings (run.lasting milliseconds), none⟩

/-- **The outcome of a call** with the given arguments, in a folder called `root` where the
test takes so many milliseconds. -/
def execute (root : String) (folder : Folder) (arguments : List String) (milliseconds : Int) :
    Outcome :=
  match options? {} arguments with
  | none => refused
  | some options => outcome (test root folder options) milliseconds

end CommandLine

end TypeTest
