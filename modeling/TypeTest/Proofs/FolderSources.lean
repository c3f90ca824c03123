import TypeTest.Folder.Sources

/-!
# Which scripts a folder has

The scripts of a project are found by one walk through its folder, which skips whole folders
and puts files and folders of one level side by side. What the walk finds is told here without a
walk. A file **lies below** a folder under the names of the folders it is in (`Folder.Holds`),
and it is found if its name ends in `.ts` with something in front, its content is a text, and
none of the folders it is in is passed over. There is no condition on the name of the folder
that the walk starts with, since nothing is skipped at depth zero (`isSkipped_root`), nor on how
the name of a file begins, since no file is skipped (`isSkipped_file`).

Found files come in the order of their paths, compared name by name. That is not the order of
the paths as texts: a slash comes after a dash, so the file `a-b.ts` stands behind all files of
the folder `a`, though its path comes before theirs as a text.
-/

namespace TypeTest

namespace Folder

/-! ## Folders and paths -/

/-- **A folder in order**: on each level the names grow, so no two entries have one name. -/
def InOrder : Folder → Prop
  | .empty => True
  | .file name _ others => (∀ other ∈ others.names, name < other) ∧ others.InOrder
  | .folder name inside others =>
    (∀ other ∈ others.names, name < other) ∧ inside.InOrder ∧ others.InOrder

/-- All names in a folder, on every level. -/
def allNames : Folder → List String
  | .empty => []
  | .file name _ others => name :: others.allNames
  | .folder name inside others => name :: (inside.allNames ++ others.allNames)

/-- **A file lies below a folder**: in the folders with the names `above`, one in the other,
under the name `name`. -/
inductive Holds : Folder → List String → String → ByteArray → Prop
  | here {name : String} {content : ByteArray} {others : Folder} :
    Holds (.file name content others) [] name content
  | inside {parent name : String} {above : List String} {content : ByteArray}
    {inside others : Folder} (h : inside.Holds above name content) :
    Holds (.folder parent inside others) (parent :: above) name content
  | afterFile {name other : String} {above : List String} {content bytes : ByteArray}
    {others : Folder} (h : others.Holds above name content) :
    Holds (.file other bytes others) above name content
  | afterFolder {name other : String} {above : List String} {content : ByteArray}
    {inside others : Folder} (h : others.Holds above name content) :
    Holds (.folder other inside others) above name content

/-! ## Folders of given files -/

section Put

variable {content : Option ByteArray} {name : String} {others folder : Folder}

@[simp] theorem names_branch (path : List String) :
    (branch content name path others).names = name :: others.names := by
  cases path with
  | nil => cases content <;> rfl
  | cons next path => rfl

/-- An entry in front of others in order is in order with them. -/
theorem inOrder_branch (hname : ∀ other ∈ others.names, name < other) (h : others.InOrder)
    (path : List String) : (branch content name path others).InOrder := by
  induction path generalizing name others with
  | nil =>
    cases content with
    | some bytes => exact ⟨hname, h⟩
    | none => exact ⟨hname, trivial, h⟩
  | cons next path ih =>
    exact ⟨hname, ih (fun _ h => absurd h List.not_mem_nil) trivial, h⟩

/-- What is put into a folder comes under the first name of its path. -/
theorem mem_names_put {more : List String} {other : String}
    (h : other ∈ (folder.put content (name :: more)).names) :
    other = name ∨ other ∈ folder.names := by
  induction folder with
  | empty =>
    rw [put, names_branch] at h
    exact .inl (List.mem_singleton.mp h)
  | file n bytes others ih =>
    unfold put at h
    dsimp only at h
    split at h
    · rw [names_branch] at h
      exact List.mem_cons.mp h
    split at h
    · exact .inr h
    · rcases List.mem_cons.mp h with rfl | h
      · exact .inr List.mem_cons_self
      · exact (ih h).imp_right (List.mem_cons_of_mem _)
  | folder n inside others _ ih =>
    unfold put at h
    dsimp only at h
    split at h
    · rw [names_branch] at h
      exact List.mem_cons.mp h
    split at h
    · exact .inr h
    · rcases List.mem_cons.mp h with rfl | h
      · exact .inr List.mem_cons_self
      · exact (ih h).imp_right (List.mem_cons_of_mem _)

/-- A name in front of the first entry is in front of all. -/
theorem lt_of_lt_first {n other : String} (hfirst : ∀ other ∈ others.names, n < other)
    (hlt : name < n) (h : other ∈ n :: others.names) : name < other := by
  rcases List.mem_cons.mp h with rfl | h
  · exact hlt
  · exact String.lt_trans hlt (hfirst other h)

/-- What is put behind the first entry leaves it the first one. -/
theorem lt_of_mem_names_put {n other : String} {more : List String}
    (hfirst : ∀ other ∈ others.names, n < other) (hlt : ¬ name < n) (hne : name ≠ n)
    (h : other ∈ (others.put content (name :: more)).names) : n < other := by
  rcases mem_names_put h with rfl | h
  · exact Std.lt_of_le_of_ne (String.not_lt.mp hlt) (Ne.symm hne)
  · exact hfirst other h

/-- **Putting something into a folder keeps it in order.** -/
theorem InOrder.put (h : folder.InOrder) (path : List String) :
    (folder.put content path).InOrder := by
  induction folder generalizing path with
  | empty =>
    cases path with
    | nil => exact trivial
    | cons name more =>
      refine inOrder_branch (fun _ h => absurd h List.not_mem_nil) ?_ more
      exact trivial
  | file n bytes others ih =>
    cases path with
    | nil => exact h
    | cons name more =>
      obtain ⟨hfirst, hothers⟩ := h
      unfold Folder.put
      dsimp only
      split
      · refine inOrder_branch (fun other => lt_of_lt_first hfirst ‹_›) ?_ more
        exact ⟨hfirst, hothers⟩
      split
      · exact ⟨hfirst, hothers⟩
      · exact ⟨fun other => lt_of_mem_names_put hfirst ‹_› ‹_›, ih hothers (name :: more)⟩
  | folder n inside others ihinside ih =>
    cases path with
    | nil => exact h
    | cons name more =>
      obtain ⟨hfirst, hinside, hothers⟩ := h
      unfold Folder.put
      dsimp only
      split
      · refine inOrder_branch (fun other => lt_of_lt_first hfirst ‹_›) ?_ more
        exact ⟨hfirst, hinside, hothers⟩
      split
      · exact ⟨hfirst, ihinside hinside more, hothers⟩
      · exact ⟨fun other => lt_of_mem_names_put hfirst ‹_› ‹_›, hinside, ih hothers (name :: more)⟩

/-- **A folder of given files is in order**, in whatever order the files are given. -/
theorem inOrder_ofFiles (files : List (String × Option ByteArray)) : (ofFiles files).InOrder :=
  List.foldlRecOn files _ trivial fun _ h f _ => h.put (components f.1)

end Put

/-! ## Names -/

/-- **The names of scripts** are those that end in `.ts` after something. -/
theorem isScriptName_iff {name : String} :
    isScriptName name = true ↔ ∃ before, before ≠ [] ∧ name.toList = before ++ ['.', 't', 's'] := by
  unfold isScriptName extension?
  constructor
  · intro h
    have hname := List.takeWhile_append_dropWhile (p := (· != '.')) (l := name.toList.reverse)
    have hdot := List.head?_dropWhile_not (· != '.') name.toList.reverse
    split at h
    · rename_i dot last before hdrop
      have hending := congrArg List.reverse (Option.some.inj (eq_of_beq h))
      rw [List.reverse_reverse] at hending
      rw [hdrop] at hdot
      obtain rfl : dot = '.' := by simpa using hdot
      rw [hending, hdrop] at hname
      refine ⟨(last :: before).reverse, by simp, ?_⟩
      rw [← List.reverse_inj, ← hname]
      simp
    · cases h
  · rintro ⟨before, hne, hname⟩
    obtain ⟨last, before, hlast⟩ := List.exists_cons_of_ne_nil (List.reverse_ne_nil_iff.mpr hne)
    rw [hname, List.reverse_append, hlast]
    rfl

/-- **The folders that are looked into**, by their names. -/
theorem isPassedOver_eq_false_iff {name : String} :
    isPassedOver name = false ↔
      name.toList.head? ≠ some '.' ∧ name ≠ "node_modules" ∧ name ≠ "target" := by
  have hdot : ".".toList = ['.'] := by decide
  unfold isPassedOver
  rw [Bool.or_eq_false_iff, Bool.or_eq_false_iff, String.startsWith_string_eq_false_iff, hdot,
    List.singleton_prefix_iff_head?_eq_some, beq_eq_false_iff_ne, beq_eq_false_iff_ne, and_assoc]

/-- What is neither in the parts nor between them is not in the whole. -/
theorem notMem_intercalate {c : Char} {between : List Char} {parts : List (List Char)}
    (h : ∀ part ∈ parts, c ∉ part) (hbetween : c ∉ between) :
    c ∉ between.intercalate parts := by
  induction parts with
  | nil => exact List.not_mem_nil
  | cons part parts ih =>
    obtain ⟨hpart, hparts⟩ := List.forall_mem_cons.mp h
    cases parts with
    | nil =>
      rw [List.intercalate_singleton]
      exact hpart
    | cons next parts =>
      rw [List.intercalate_cons_cons, List.mem_append, List.mem_append]
      rintro ((hc | hc) | hc)
      · exact hpart hc
      · exact hbetween hc
      · exact ih hparts hc

/-- A path without backslashes is named as it is. -/
theorem pathName_of_plain {path : List String} (h : ∀ name ∈ path, '\\' ∉ name.toList) :
    pathName path = "/".intercalate path := by
  have hplain : '\\' ∉ ("/".intercalate path).toList := by
    rw [String.toList_intercalate]
    exact notMem_intercalate (List.forall_mem_map.mpr h) (by decide)
  refine String.toList_injective ?_
  rw [pathName, RunOptions.slashed, String.toList_map]
  refine (List.map_congr_left fun c hc => if_neg ?_).trans (List.map_id' _)
  rintro rfl
  exact hplain hc

/-! ## What is found -/

/-- The text of a file, if it is a script. -/
def scriptText? (name : String) (content : ByteArray) : Option String :=
  if isScriptName name then String.fromUTF8? content else none

theorem scriptText?_eq_some_iff {name text : String} {content : ByteArray} :
    scriptText? name content = some text ↔
      isScriptName name = true ∧ String.fromUTF8? content = some text :=
  Option.ite_none_right_eq_some

/-- **The scripts below a folder** by their paths from there, in the order of the walk. -/
def located : Folder → List (List String × String)
  | .empty => []
  | .file name content others =>
    (scriptText? name content).toList.map (fun text => ([name], text)) ++ others.located
  | .folder name inside others =>
    if isPassedOver name then others.located
    else inside.located.map (fun s => (name :: s.1, s.2)) ++ others.located

/-- **No file is skipped.** -/
theorem isSkipped_file (above : List String) (name : String) (content : ByteArray) :
    Visited.isSkipped ⟨above, name, .file content⟩ = false := by
  rw [Visited.isSkipped, FolderEntry.isFolder, Bool.and_false, Bool.false_and]

/-- **The root of a walk is not skipped**, whatever its name is. -/
theorem isSkipped_root (root : String) (entry : FolderEntry) :
    Visited.isSkipped ⟨[], root, entry⟩ = false := rfl

/-- **Below the root a folder is skipped by its name.** -/
theorem isSkipped_below (root name : String) (above : List String) (inside : Folder) :
    Visited.isSkipped ⟨root :: above, name, .folder inside⟩ = isPassedOver name := by
  have hdepth : 0 < Visited.depth ⟨root :: above, name, .folder inside⟩ := Nat.succ_pos _
  rw [Visited.isSkipped, decide_eq_true hdepth, FolderEntry.isFolder, Bool.true_and, Bool.true_and]

/-- A file below the root is named by its path from there. -/
theorem source?_below (root name : String) (above : List String) (content : ByteArray) :
    Visited.source? ⟨root :: above, name, .file content⟩
      = (scriptText? name content).map fun text => (pathName (above ++ [name]), text) := by
  unfold Visited.source? scriptText?
  dsimp only
  split <;> rfl

/-- **Below the root the walk names what it finds** by the paths from there. -/
theorem filterMap_walk (root : String) (above : List String) (folder : Folder) :
    (folder.walk (root :: above)).filterMap Visited.source?
      = folder.located.map fun s => (pathName (above ++ s.1), s.2) := by
  induction folder generalizing above with
  | empty => rfl
  | file name content others ih =>
    unfold walk located
    dsimp only
    rw [isSkipped_file, if_neg Bool.false_ne_true, List.filterMap_append, ih, List.map_append,
      List.filterMap_cons, source?_below]
    cases scriptText? name content <;> rfl
  | folder name inside others ihinside ih =>
    unfold walk located
    dsimp only
    rw [isSkipped_below, List.filterMap_append, ih, List.cons_append]
    split
    · rfl
    · rw [List.filterMap_cons_none rfl, ihinside, List.map_append, List.map_map]
      simp only [List.append_assoc, List.singleton_append, Function.comp_def]

/-- **The walk from a root finds what lies below it.** -/
theorem sources_eq_map (root : String) (folder : Folder) :
    folder.sources root = folder.located.map fun s => (pathName s.1, s.2) := by
  unfold sources walk
  dsimp only
  rw [isSkipped_root, if_neg Bool.false_ne_true, walk, List.append_nil,
    List.filterMap_cons_none rfl]
  exact filterMap_walk root [] folder

section Located

variable {folder : Folder} {name text : String} {above path : List String} {content : ByteArray}
  {s : List String × String}

theorem mem_located_file_iff {others : Folder} :
    s ∈ (file name content others).located ↔
      (∃ text, scriptText? name content = some text ∧ s = ([name], text)) ∨
        s ∈ others.located := by
  rw [located, List.mem_append, List.mem_map]
  simp only [Option.mem_toList, eq_comm]

theorem mem_located_folder_iff {inside others : Folder} :
    s ∈ (Folder.folder name inside others).located ↔
      (isPassedOver name = false ∧ ∃ below ∈ inside.located, s = (name :: below.1, below.2)) ∨
        s ∈ others.located := by
  rw [located]
  cases isPassedOver name with
  | true => simp only [if_true, Bool.true_eq_false, false_and, false_or]
  | false =>
    rw [if_neg Bool.false_ne_true, List.mem_append, List.mem_map]
    simp only [true_and, eq_comm]

/-- A script is found unless it is in a folder that is passed over. -/
theorem Holds.mem_located (h : folder.Holds above name content)
    (htext : scriptText? name content = some text)
    (habove : ∀ parent ∈ above, isPassedOver parent = false) :
    (above ++ [name], text) ∈ folder.located := by
  induction h with
  | here => exact mem_located_file_iff.mpr (.inl ⟨text, htext, rfl⟩)
  | inside _ ih =>
    obtain ⟨hparent, habove⟩ := List.forall_mem_cons.mp habove
    exact mem_located_folder_iff.mpr (.inl ⟨hparent, _, ih htext habove, rfl⟩)
  | afterFile _ ih => exact mem_located_file_iff.mpr (.inr (ih htext habove))
  | afterFolder _ ih => exact mem_located_folder_iff.mpr (.inr (ih htext habove))

/-- What is found is a script that lies below the folder. -/
theorem exists_holds_of_mem_located (h : (path, text) ∈ folder.located) :
    ∃ above name content, path = above ++ [name] ∧ folder.Holds above name content ∧
      scriptText? name content = some text ∧ ∀ parent ∈ above, isPassedOver parent = false := by
  induction folder generalizing path with
  | empty => exact absurd h List.not_mem_nil
  | file name content others ih =>
    rcases mem_located_file_iff.mp h with ⟨found, hfound, he⟩ | h
    · cases he
      exact ⟨[], name, content, rfl, .here, hfound, nofun⟩
    · obtain ⟨above, found, bytes, hpath, hholds, htext, habove⟩ := ih h
      exact ⟨above, found, bytes, hpath, .afterFile hholds, htext, habove⟩
  | folder parent inside others ihinside ih =>
    rcases mem_located_folder_iff.mp h with ⟨hparent, ⟨below, found⟩, hbelow, he⟩ | h
    · cases he
      obtain ⟨above, name, bytes, rfl, hholds, htext, habove⟩ := ihinside hbelow
      exact ⟨parent :: above, name, bytes, rfl, .inside hholds, htext,
        List.forall_mem_cons.mpr ⟨hparent, habove⟩⟩
    · obtain ⟨above, found, bytes, hpath, hholds, htext, habove⟩ := ih h
      exact ⟨above, found, bytes, hpath, .afterFolder hholds, htext, habove⟩

/-- The first name of a path that is found is that of an entry. -/
theorem exists_cons_of_mem_located (h : s ∈ folder.located) :
    ∃ name more, s.1 = name :: more ∧ name ∈ folder.names := by
  induction folder generalizing s with
  | empty => exact absurd h List.not_mem_nil
  | file name content others ih =>
    rcases mem_located_file_iff.mp h with ⟨text, _, rfl⟩ | h
    · exact ⟨name, [], rfl, List.mem_cons_self⟩
    · obtain ⟨first, more, he, hfirst⟩ := ih h
      exact ⟨first, more, he, List.mem_cons_of_mem _ hfirst⟩
  | folder name inside others _ ih =>
    rcases mem_located_folder_iff.mp h with ⟨_, below, _, rfl⟩ | h
    · exact ⟨name, below.1, rfl, List.mem_cons_self⟩
    · obtain ⟨first, more, he, hfirst⟩ := ih h
      exact ⟨first, more, he, List.mem_cons_of_mem _ hfirst⟩

/-- A path through an entry comes before what is found in the entries after it. -/
theorem lt_of_mem_located {others : Folder} (h : ∀ other ∈ others.names, name < other)
    (hs : s ∈ others.located) (below : List String) :
    name :: below < s.1 := by
  obtain ⟨first, more, he, hfirst⟩ := exists_cons_of_mem_located hs
  rw [he]
  exact List.cons_lt_cons_iff.mpr (.inl (h first hfirst))

/-- **What is found in a folder in order comes in the order of the paths.** -/
theorem InOrder.pairwise_located (h : folder.InOrder) :
    folder.located.Pairwise fun s t => s.1 < t.1 := by
  induction folder with
  | empty => exact List.Pairwise.nil
  | file name content others ih =>
    obtain ⟨hfirst, hothers⟩ := h
    unfold located
    refine List.pairwise_append.mpr ⟨?_, ih hothers, fun s hs t ht => ?_⟩
    · cases scriptText? name content with
      | none => exact List.Pairwise.nil
      | some text => exact List.pairwise_singleton _ _
    · obtain ⟨text, _, rfl⟩ := List.mem_map.mp hs
      exact lt_of_mem_located hfirst ht []
  | folder name inside others ihinside ih =>
    obtain ⟨hfirst, hinside, hothers⟩ := h
    unfold located
    split
    · exact ih hothers
    · refine List.pairwise_append.mpr ⟨?_, ih hothers, fun s hs t ht => ?_⟩
      · exact List.pairwise_map.mpr
          ((ihinside hinside).imp fun hlt => List.cons_lt_cons_iff.mpr (.inr ⟨rfl, hlt⟩))
      · obtain ⟨below, _, rfl⟩ := List.mem_map.mp hs
        exact lt_of_mem_located hfirst ht below.1

end Located

/-- The names in a path to a file are names in the folder. -/
theorem Holds.mem_allNames {folder : Folder} {above : List String} {name : String}
    {content : ByteArray} (h : folder.Holds above name content) :
    ∀ other ∈ above ++ [name], other ∈ folder.allNames := by
  induction h with
  | here => exact fun other hother => List.mem_singleton.mp hother ▸ List.mem_cons_self
  | inside _ ih =>
    rw [List.cons_append, List.forall_mem_cons]
    exact ⟨List.mem_cons_self,
      fun other hother => List.mem_cons_of_mem _ (List.mem_append_left _ (ih other hother))⟩
  | afterFile _ ih => exact fun other hother => List.mem_cons_of_mem _ (ih other hother)
  | afterFolder _ ih =>
    exact fun other hother => List.mem_cons_of_mem _ (List.mem_append_right _ (ih other hother))

/-- **A list of the scripts below a folder**, with their paths from there and their texts, in the
order of the paths: each file whose name ends in `.ts` after something and whose content is a
text, unless a folder it is in is hidden, has installed packages or holds build results. -/
structure ListsScripts (folder : Folder) (found : List (List String × String)) : Prop where
  /-- The paths grow, so that none is found twice. -/
  inOrder : found.Pairwise fun s t => s.1 < t.1
  mem_iff : ∀ path text, (path, text) ∈ found ↔ ∃ above name content, path = above ++ [name] ∧
    folder.Holds above name content ∧ String.fromUTF8? content = some text ∧
    (∃ before, before ≠ [] ∧ name.toList = before ++ ['.', 't', 's']) ∧
    ∀ parent ∈ above, parent.toList.head? ≠ some '.' ∧ parent ≠ "node_modules" ∧
      parent ≠ "target"

theorem InOrder.listsScripts_located {folder : Folder} (h : folder.InOrder) :
    folder.ListsScripts folder.located where
  inOrder := h.pairwise_located
  mem_iff path text := by
    constructor
    · intro hmem
      obtain ⟨above, name, content, hpath, hholds, htext, habove⟩ :=
        exists_holds_of_mem_located hmem
      obtain ⟨hname, htext⟩ := scriptText?_eq_some_iff.mp htext
      exact ⟨above, name, content, hpath, hholds, htext, isScriptName_iff.mp hname,
        fun parent hparent => isPassedOver_eq_false_iff.mp (habove parent hparent)⟩
    · rintro ⟨above, name, content, rfl, hholds, htext, hname, habove⟩
      exact hholds.mem_located (scriptText?_eq_some_iff.mpr ⟨isScriptName_iff.mpr hname, htext⟩)
        fun parent hparent => isPassedOver_eq_false_iff.mpr (habove parent hparent)

/-- Without backslashes in names the sources are named by their paths as they are. -/
theorem sources_eq_map_intercalate (root : String) {folder : Folder}
    (hplain : ∀ name ∈ folder.allNames, '\\' ∉ name.toList) :
    folder.sources root = folder.located.map fun s => ("/".intercalate s.1, s.2) := by
  rw [sources_eq_map]
  refine List.map_congr_left fun s hs => ?_
  obtain ⟨above, name, content, hpath, hholds, _⟩ := exists_holds_of_mem_located hs
  rw [hpath, pathName_of_plain]
  exact fun other hother => hplain other (hholds.mem_allNames other hother)

/-- **The sources of a folder are its scripts, in the order of their paths**, whatever the folder
itself is called. In a folder in order, without backslashes in names, each file is found exactly
once if its name ends in `.ts` after something, its content is a text, and no folder between it
and the root is hidden, has installed packages or holds build results; nothing else is found. -/
theorem sources_eq_scripts_in_order {folder : Folder} (horder : folder.InOrder)
    (hplain : ∀ name ∈ folder.allNames, '\\' ∉ name.toList) :
    ∃ found : List (List String × String), folder.ListsScripts found ∧
      ∀ root, folder.sources root = found.map fun s => ("/".intercalate s.1, s.2) :=
  ⟨_, horder.listsScripts_located, fun root => sources_eq_map_intercalate root hplain⟩

/-- A folder with a script in a folder, one beside it, and one in a hidden folder. -/
def mixedFolder : Folder :=
  .folder ".git" (.file "z.ts" "".toUTF8 .empty)
    (.folder "a" (.file ".b.ts" "f();".toUTF8 .empty) (.file "a-b.ts" "".toUTF8 .empty))

/-- The script with the hidden name is found, even from a root whose name is passed over
elsewhere. -/
theorem sources_mixedFolder :
    mixedFolder.InOrder ∧ (∀ name ∈ mixedFolder.allNames, '\\' ∉ name.toList) ∧
      isPassedOver "node_modules" = true ∧
      ("a/.b.ts", "f();") ∈ mixedFolder.sources "node_modules" := by
  have horder : mixedFolder.InOrder := by
    simp only [mixedFolder, InOrder, names]
    decide +kernel
  have hplain : ∀ name ∈ mixedFolder.allNames, '\\' ∉ name.toList := by
    decide +kernel
  refine ⟨horder, hplain, by decide +kernel, ?_⟩
  obtain ⟨found, hlists, hfound⟩ := sources_eq_scripts_in_order horder hplain
  rw [hfound]
  refine List.mem_map.mpr ⟨(["a", ".b.ts"], "f();"), (hlists.mem_iff _ _).mpr ?_, by decide⟩
  refine ⟨["a"], ".b.ts", _, rfl, .afterFolder (.inside .here), ?_, ⟨['.', 'b'], ?_, ?_⟩, ?_⟩
  · decide
  · decide
  · decide
  · decide

/-- **The sources of a project whose files are given**, in whatever order, are its scripts in the
order of their paths. -/
theorem sources_ofFiles (files : List (String × Option ByteArray))
    (hplain : ∀ name ∈ (ofFiles files).allNames, '\\' ∉ name.toList) :
    ∃ found : List (List String × String), (ofFiles files).ListsScripts found ∧
      ∀ root, (ofFiles files).sources root = found.map fun s => ("/".intercalate s.1, s.2) :=
  ⟨_, (inOrder_ofFiles files).listsScripts_located,
    fun root => sources_eq_map_intercalate root hplain⟩

end Folder

end TypeTest
