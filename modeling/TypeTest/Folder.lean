/-!
# Folders

A folder is a tree: its entries in the order of their names, each a file with its
content or a folder in turn. The order is that of the characters of the names, and
files and folders are not kept apart, so going through a folder from the front is
going through it by name.
-/

namespace TypeTest

/-- **A folder**, entry by entry. -/
inductive Folder where
  /-- No entries. -/
  | empty
  /-- A file, and the entries after it. -/
  | file (name : String) (content : ByteArray) (others : Folder)
  /-- A folder, and the entries after it. -/
  | folder (name : String) (inside others : Folder)

/-- **What stands under a name.** -/
inductive FolderEntry where
  | file (content : ByteArray)
  | folder (inside : Folder)

/-- Whether there is a folder. -/
def FolderEntry.isFolder : FolderEntry → Bool
  | .file _ => false
  | .folder _ => true

namespace Folder

/-- The entry with a name. -/
def find? (name : String) : Folder → Option FolderEntry
  | .empty => none
  | .file n content others => if n = name then some (.file content) else others.find? name
  | .folder n inside others => if n = name then some (.folder inside) else others.find? name

/-- One entry in front of others: the file or folder at the end of a path, in as many
folders as the path has before it. No content makes a folder. -/
def branch (content : Option ByteArray) : String → List String → Folder → Folder
  | name, [], others =>
    match content with
    | some bytes => .file name bytes others
    | none => .folder name .empty others
  | name, next :: path, others => .folder name (branch content next path .empty) others

/-- **Puts a file or an empty folder at a path**, with the folders that it needs. A file
takes the place of a file; a folder that is there stays as it is. -/
def put (content : Option ByteArray) (path : List String) : Folder → Folder
  | .empty =>
    match path with
    | [] => .empty
    | name :: more => branch content name more .empty
  | .file n bytes others =>
    match path with
    | [] => .file n bytes others
    | name :: more =>
      if name < n then branch content name more (.file n bytes others)
      else if name = n then .file n (if more.isEmpty then content.getD bytes else bytes) others
      else .file n bytes (others.put content path)
  | .folder n inside others =>
    match path with
    | [] => .folder n inside others
    | name :: more =>
      if name < n then branch content name more (.folder n inside others)
      else if name = n then .folder n (inside.put content more) others
      else .folder n inside (others.put content path)

/-- The names that a path is made of. -/
def components (path : String) : List String :=
  (path.splitOn "/").filter fun name => name ≠ "" ∧ name ≠ "."

/-- The folder with the given files, and folders where there is no content. -/
def ofFiles (files : List (String × Option ByteArray)) : Folder :=
  files.foldl (fun folder f => folder.put f.2 (components f.1)) .empty

/-- The names of the entries. -/
def names : Folder → List String
  | .empty => []
  | .file n _ others => n :: others.names
  | .folder n _ others => n :: others.names

end Folder

end TypeTest
