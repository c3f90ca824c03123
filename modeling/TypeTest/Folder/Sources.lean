import TypeTest.Folder
import TypeTest.SetupError
import TypeTest.Settings

/-!
# What a folder says about its tests

The scripts of a project lie anywhere below its folder, except in folders that hold
no work of the project: hidden ones, installed packages and build results. They are
found by a walk that starts with the folder itself, as an entry at depth zero under
the name that it has, and what is skipped depends on the depth: a project may lie in a
folder that would be skipped in another one. A script is known by its path below the
folder. Files that are no text are left out.
-/

namespace TypeTest

namespace Folder

/-- The names of the folders that hold no work of a project. -/
def isPassedOver (name : String) : Bool :=
  name.startsWith "." || name == "node_modules" || name == "target"

/-- **The extension of the name of a file**: what follows its last dot. There is none
without a dot, or with nothing in front of it. -/
def extension? (name : List Char) : Option (List Char) :=
  match name.reverse.dropWhile (· != '.') with
  | _ :: _ :: _ => some (name.reverse.takeWhile (· != '.')).reverse
  | _ => none

/-- **The name of a script**: it has the extension of scripts. -/
def isScriptName (name : String) : Bool := extension? name.toList == some ['t', 's']

/-- The name of the file at a path. -/
def pathName (path : List String) : String := RunOptions.slashed (String.intercalate "/" path)

/-- **An entry that a walk comes to.** -/
structure Visited where
  /-- The names of the folders that it is in, from the root of the walk on. -/
  above : List String
  /-- Its own name. -/
  name : String
  entry : FolderEntry

namespace Visited

/-- How deep an entry is. The root of the walk is in no folder. -/
def depth (v : Visited) : Nat := v.above.length

/-- **Whether an entry is skipped**, with everything in it: a folder that holds no work of
the project, unless the walk starts there. -/
def isSkipped (v : Visited) : Bool :=
  decide (0 < v.depth) && v.entry.isFolder && isPassedOver v.name

/-- The names on the way to an entry from the root, whose own is left out. -/
def path (v : Visited) : List String := (v.above ++ [v.name]).tail

/-- **The source that an entry is**: a script with a text. -/
def source? (v : Visited) : Option (String × String) :=
  match v.entry with
  | .folder _ => none
  | .file content =>
    if isScriptName v.name then
      (String.fromUTF8? content).map fun text => (pathName v.path, text)
    else none

end Visited

/-- **The walk through the entries of a folder**, where `above` are the names of the folders
that they are in: each entry that is not skipped, then what is in it. -/
def walk (above : List String) : Folder → List Visited
  | .empty => []
  | .file name content others =>
    let own : Visited := ⟨above, name, .file content⟩
    (if own.isSkipped then [] else [own]) ++ others.walk above
  | .folder name inside others =>
    let own : Visited := ⟨above, name, .folder inside⟩
    (if own.isSkipped then [] else own :: inside.walk (above ++ [name])) ++ others.walk above

/-- **The sources of a project**: the scripts that the walk finds from its folder, which is
called `root`. -/
def sources (root : String) (folder : Folder) : List (String × String) :=
  (walk [] (.folder root folder .empty)).filterMap Visited.source?

/-- **The settings of the project** in a folder, if it has a project file. -/
def project? (folder : Folder) : Except SetupError (Option ProjectSettings) :=
  match folder.find? ProjectSettings.fileName with
  | none => .ok none
  | some (.folder _) => .error (.unreadable ProjectSettings.fileName "is a folder")
  | some (.file content) =>
    match String.fromUTF8? content with
    | none => .error (.unreadable ProjectSettings.fileName "is not a text")
    | some text =>
      match ProjectSettings.ofText? text with
      | none => .error (.invalidProject ProjectSettings.fileName)
      | some settings => .ok (some settings)

/-- The settings of the project in a folder. A project file that cannot be used counts
for nothing. -/
def project (folder : Folder) : ProjectSettings :=
  match folder.project? with
  | .ok (some settings) => settings
  | _ => {}

end Folder

end TypeTest
