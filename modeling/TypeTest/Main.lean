import TypeTest.CommandLine

/-!
# The program

Understands the arguments, reads the current folder, tests it and writes what comes
of it. All but the reading and writing is `CommandLine.execute`.
-/

namespace TypeTest

/-- The files below a folder on disk, by their paths in it. What cannot be read is
left out. -/
partial def readBelow (above : String) (entries : Array IO.FS.DirEntry) :
    IO (List (String × Option ByteArray)) := do
  let mut found := []
  for entry in entries do
    let name := above ++ entry.fileName
    try
      match (← entry.path.symlinkMetadata).type with
      | IO.FS.FileType.dir =>
        found := found ++ (name, none) :: (← readBelow (name ++ "/") (← entry.path.readDir))
      | IO.FS.FileType.file =>
        found := found ++ [(name, some (← IO.FS.readBinFile entry.path))]
      | _ => pure ()
    catch _ => pure ()
  return found

/-- Writes what a call comes to, and answers its exit code. -/
def CommandLine.Outcome.write (outcome : CommandLine.Outcome) : IO UInt32 := do
  IO.print outcome.output
  match outcome.complaint with
  | some complaint => IO.eprintln complaint
  | none => pure ()
  return UInt32.ofNat outcome.exitCode

end TypeTest

/-- Tests the current folder. -/
def main (arguments : List String) : IO UInt32 := do
  match TypeTest.CommandLine.options? {} arguments with
  | none => TypeTest.CommandLine.refused.write
  | some options =>
    let folder ← IO.currentDir
    let root := folder.fileName.getD ""
    let files ← TypeTest.readBelow "" (← folder.readDir)
    let start ← IO.monoMsNow
    let tested ← IO.lazyPure fun _ => TypeTest.CommandLine.test root (.ofFiles files) options
    let stop ← IO.monoMsNow
    (TypeTest.CommandLine.outcome tested (stop - start : Nat)).write
