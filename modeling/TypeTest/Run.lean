import TypeTest.Discovery.Walk
import TypeTest.Report.Tally

/-!
# Runs

A run tests the selected files of a program, one after the other in the order in
which the host supplies them.
-/

namespace TypeTest

variable {ν : Type}

/-- The results of a file. -/
def SourceFile.test (file : SourceFile ν) (oracle : TypeOracle ν) : FileResult :=
  ⟨file.name, file.walk oracle⟩

/-- **The results of the selected files of a program.** -/
def HostProgram.run (program : HostProgram ν) (selected : String → Bool) : RunResult :=
  .ofFiles ((program.files.filter fun file => selected file.name).map fun file =>
    file.test program.oracle)

end TypeTest
