import TypeTest.Discovery.Site

/-!
# Finding the tests of a file

`visit` says what the tests of a node are: a group holds the tests of the body of
its callback; a test is a case, and nothing in it is looked at for further tests; a
test outside of any group does not count; any other node has the tests of its
children. `walk` finds the same by a loop that never nests, however deeply groups
do: it keeps a stack of frames, one for the file and one for each group that is
open, and each frame holds what was found in it and what is left to look at.

The loop ends because each step makes `Walk.weight` smaller. The weight of a node
exceeds that of everything beneath it together, by enough to pay for opening and
closing a group.
-/

namespace TypeTest

variable {ν : Type}

namespace SourceFile

/-! ## The tests of a node -/

/-- **The tests of a node**, `inside` a group or not. -/
def visit (file : SourceFile ν) (oracle : TypeOracle ν) (inside : Bool) (n : ν) :
    List TestNode :=
  match _hs : file.site? n with
  | some (.group description callback) =>
    match _hb : (file.shape callback).body? with
    | some body => [.group (file.describe description) (file.visit oracle true body)]
    | none => [.group (file.describe description) []]
  | some (.test description callback) =>
    if inside then [.case (file.testCase oracle description callback)] else []
  | none => (file.children n).attach.flatMap fun c => file.visit oracle inside c.1
termination_by file.wellFounded.wrap n
decreasing_by
  · exact beneath_of_site? _hs _hb
  · exact .child c.2

/-- **What a node contributes, in terms of what lies beneath it.** -/
theorem visit_eq (file : SourceFile ν) (oracle : TypeOracle ν) (inside : Bool) (n : ν) :
    file.visit oracle inside n =
      match file.site? n with
      | some (.group description callback) =>
        [.group (file.describe description)
          ((file.shape callback).body?.toList.flatMap (file.visit oracle true))]
      | some (.test description callback) =>
        if inside then [.case (file.testCase oracle description callback)] else []
      | none => (file.children n).flatMap (file.visit oracle inside) := by
  rw [visit]
  split
  · rename_i hs
    split <;> rename_i hb <;> simp [hs, hb]
  · rename_i hs
    rw [hs]
  · rename_i hs
    rw [hs, List.flatMap_subtype (fun _ _ => rfl), List.unattach_attach]

/-! ## Weights -/

/-- What lies directly beneath a node: its children and the bodies of the functions
among its arguments. -/
def successors (file : SourceFile ν) (n : ν) : List ν :=
  file.children n ++
    match file.shape n with
    | .call _ _ arguments => arguments.filterMap fun f => (file.shape f).body?
    | _ => []

theorem beneath_of_mem_successors {file : SourceFile ν} {n c : ν} (h : c ∈ file.successors n) :
    Beneath file.children file.shape c n := by
  unfold successors at h
  rcases List.mem_append.1 h with h | h
  · exact .child h
  · split at h
    · rename_i hn
      obtain ⟨f, hf, hb⟩ := List.mem_filterMap.1 h
      exact .body hn hf hb
    · simp at h

/-- **The weight of a node**: two more than all that lies directly beneath it. -/
def weight (file : SourceFile ν) (n : ν) : Nat :=
  2 + total ((file.successors n).attach.map fun c => file.weight c.1)
termination_by file.wellFounded.wrap n
decreasing_by exact beneath_of_mem_successors c.2

/-- The weight of several nodes. -/
def weightOf (file : SourceFile ν) (ns : List ν) : Nat := total (ns.map file.weight)

@[simp] theorem weightOf_nil (file : SourceFile ν) : file.weightOf [] = 0 := rfl

@[simp] theorem weightOf_cons (file : SourceFile ν) (n : ν) (ns : List ν) :
    file.weightOf (n :: ns) = file.weight n + file.weightOf ns := by simp [weightOf]

@[simp] theorem weightOf_append (file : SourceFile ν) (ns ms : List ν) :
    file.weightOf (ns ++ ms) = file.weightOf ns + file.weightOf ms := by simp [weightOf]

theorem weight_eq (file : SourceFile ν) (n : ν) :
    file.weight n = 2 + file.weightOf (file.successors n) := by
  rw [weight, List.map_subtype (fun _ _ => rfl), List.unattach_attach]
  rfl

theorem weightOf_children (file : SourceFile ν) (n : ν) :
    2 + file.weightOf (file.children n) ≤ file.weight n := by
  rw [weight_eq, successors, weightOf_append]
  omega

theorem weight_le_weightOf (file : SourceFile ν) {n : ν} {ns : List ν} (h : n ∈ ns) :
    file.weight n ≤ file.weightOf ns := by
  induction ns with
  | nil => simp at h
  | cons m ns ih =>
    rcases List.mem_cons.1 h with rfl | h
    · simp
    · have := ih h
      simp only [weightOf_cons]
      omega

/-- The body of the callback of a group weighs at least two less than the call. -/
theorem weightOf_body {file : SourceFile ν} {n description callback : ν}
    (h : file.site? n = some (.group description callback)) :
    2 + file.weightOf (file.shape callback).body?.toList ≤ file.weight n := by
  rw [weight_eq]
  cases hb : (file.shape callback).body? with
  | none => simp
  | some b =>
    have hmem : b ∈ file.successors n := by
      unfold site? at h
      split at h
      · rename_i hn
        split at h
        · split at h
          · simp only [Option.some.injEq, Site.group.injEq] at h
            obtain ⟨_, rfl⟩ := h
            simp only [successors, hn, List.mem_append, List.mem_filterMap]
            exact .inr ⟨_, by simp, hb⟩
          · split at h <;> simp at h
        · simp at h
      · simp at h
    have := weight_le_weightOf file hmem
    simp
    omega

end SourceFile

/-! ## The loop -/

/-- **A group being built**, or the file. -/
structure Frame (ν : Type) where
  /-- The description of the group. The file has none. -/
  description : Option String
  /-- The results found so far, the last one first. -/
  children : List TestNode
  /-- The nodes left to look at, the next one first. -/
  pending : List ν

namespace Walk

/-- **What a step leads to**: further frames, the innermost one first, or the groups
of the file. -/
inductive Progress (ν : Type) where
  | going (frames : List (Frame ν))
  | finished (groups : List TestGroup)

/-- The frames before the first step. -/
def start (file : SourceFile ν) : List (Frame ν) := [⟨none, [], [file.root]⟩]

/-- **Closes a frame that has no nodes left.** A group becomes a result of the frame
around it; the frame of the file gives the groups among its results. -/
def close (frame : Frame ν) (outer : List (Frame ν)) : Progress ν :=
  match frame.description with
  | none => .finished (frame.children.reverse.filterMap TestNode.group?)
  | some description =>
    let group : TestGroup := ⟨description, frame.children.reverse⟩
    match outer with
    | parent :: outer =>
      .going ({ parent with children := group.toNode :: parent.children } :: outer)
    | [] => .finished [group]

/-- **Looks at a node**, the next one of a frame from which it was taken. -/
def look (file : SourceFile ν) (oracle : TypeOracle ν) (n : ν) (frame : Frame ν) :
    List (Frame ν) :=
  match file.site? n with
  | some (.group description callback) =>
    [⟨some (file.describe description), [], (file.shape callback).body?.toList⟩, frame]
  | some (.test description callback) =>
    if frame.description.isSome then
      [{ frame with
          children := .case (file.testCase oracle description callback) :: frame.children }]
    else [frame]
  | none => [{ frame with pending := file.children n ++ frame.pending }]

/-- **One step**: looks at the next node of the innermost frame, or closes that frame
if it has none left. -/
def step (file : SourceFile ν) (oracle : TypeOracle ν) : List (Frame ν) → Progress ν
  | [] => .finished []
  | frame :: outer =>
    match frame.pending with
    | [] => close frame outer
    | n :: pending => .going (look file oracle n { frame with pending := pending } ++ outer)

/-- What is left to do: the weight of all pending nodes and one for each frame. -/
def weight (file : SourceFile ν) (frames : List (Frame ν)) : Nat :=
  total (frames.map fun frame => 1 + file.weightOf frame.pending)

@[simp] theorem weight_cons (file : SourceFile ν) (frame : Frame ν) (frames : List (Frame ν)) :
    weight file (frame :: frames) = 1 + file.weightOf frame.pending + weight file frames := by
  simp [weight]

@[simp] theorem weight_nil (file : SourceFile ν) : weight file [] = 0 := rfl

@[simp] theorem weight_append (file : SourceFile ν) (as bs : List (Frame ν)) :
    weight file (as ++ bs) = weight file as + weight file bs := by simp [weight]

/-- Looking at a node costs less than the node weighs. -/
theorem weight_look (file : SourceFile ν) (oracle : TypeOracle ν) (n : ν) (frame : Frame ν) :
    weight file (look file oracle n frame)
      < 1 + file.weight n + file.weightOf frame.pending := by
  have hn := file.weightOf_children n
  unfold look
  split
  · rename_i hs
    have hb := SourceFile.weightOf_body hs
    simp only [weight_cons, weight_nil]
    omega
  · split <;> simp only [weight_cons, weight_nil] <;> omega
  · simp only [weight_cons, weight_nil, SourceFile.weightOf_append]
    omega

/-- A step leaves less to do. -/
theorem weight_step_lt {file : SourceFile ν} {oracle : TypeOracle ν}
    {frames frames' : List (Frame ν)} (h : step file oracle frames = .going frames') :
    weight file frames' < weight file frames := by
  unfold step at h
  split at h
  · cases h
  · rename_i frame outer
    split at h
    · unfold close at h
      split at h
      · cases h
      · split at h
        · cases h
          simp only [weight_cons]
          omega
        · cases h
    · rename_i n pending hp
      cases h
      have hl := weight_look file oracle n { frame with pending := pending }
      simp only [weight_append, weight_cons, hp, SourceFile.weightOf_cons]
      simp only at hl
      omega

/-- **Steps until the groups of the file are found.** -/
def run (file : SourceFile ν) (oracle : TypeOracle ν) (frames : List (Frame ν)) :
    List TestGroup :=
  match _h : step file oracle frames with
  | .going frames' => run file oracle frames'
  | .finished groups => groups
termination_by weight file frames
decreasing_by exact weight_step_lt _h

end Walk

/-- **The groups of a file** in source order. -/
def SourceFile.walk (file : SourceFile ν) (oracle : TypeOracle ν) : List TestGroup :=
  Walk.run file oracle (Walk.start file)

end TypeTest
