import Mathlib.Logic.Relation
import TypeTest.Discovery.Walk

/-!
# The search for tests is a recursion

`SourceFile.walk` keeps a stack of frames, `SourceFile.visit` recurses. They find
the same, and the argument is one equation: `settle` reads off a stack, at any time
of the search, what the file will come to once every pending node is visited and
every open frame is closed into the one around it. Looking at a node replaces the
node by what it contributes, closing a frame moves its group from the frame to its
parent, and neither changes `settle`. Before the first step it is the recursion at
the root, after the last it is what was found.

The equation needs the stack to be **nested**: the outermost frame, and no other, is
that of the file. This holds throughout, which is also why a group always has a frame
to be closed into.
-/

namespace TypeTest

variable {ν : Type}

namespace TestNode

/-- **A tree that is a group.** -/
def IsGroup (n : TestNode) : Prop := ∃ g : TestGroup, n = g.toNode

/-- Trees that are groups are the groups among them. -/
theorem map_toNode_filterMap_group? {ns : List TestNode} (h : ∀ n ∈ ns, IsGroup n) :
    (ns.filterMap group?).map TestGroup.toNode = ns := by
  induction ns with
  | nil => rfl
  | cons n ns ih =>
    obtain ⟨g, rfl⟩ := h n List.mem_cons_self
    rw [List.filterMap_cons_some (TestGroup.group?_toNode g), List.map_cons,
      ih (fun m hm => h m (List.mem_cons_of_mem _ hm))]

end TestNode

namespace Walk

/-! ## Nested frames -/

/-- **A frame and the frames around it**, as the search builds them: the outermost
one is that of the file and holds nothing but groups, the others are groups. -/
inductive Nested : Frame ν → List (Frame ν) → Prop where
  | file {frame : Frame ν} : frame.description = none →
    (∀ r ∈ frame.children, r.IsGroup) → Nested frame []
  | group {frame parent : Frame ν} {outer : List (Frame ν)} : frame.description.isSome →
    Nested parent outer → Nested frame (parent :: outer)

/-- The frame that a search starts with is nested in nothing. -/
theorem nested_start (file : SourceFile ν) : Nested ⟨none, [], [file.root]⟩ [] :=
  .file rfl (fun _ hr => absurd hr List.not_mem_nil)

/-- A group is always nested in another frame. -/
theorem Nested.outer_ne_nil {frame : Frame ν} {outer : List (Frame ν)}
    (h : Nested frame outer) (hd : frame.description.isSome) : outer ≠ [] := by
  cases h with
  | file hn _ =>
    rw [hn] at hd
    exact absurd hd Bool.false_ne_true
  | group _ _ => exact List.cons_ne_nil _ _

/-- The frame of the file holds nothing but groups. -/
theorem Nested.isGroup_of_mem {frame : Frame ν} {outer : List (Frame ν)} (h : Nested frame outer) :
    ∀ f ∈ frame :: outer, f.description = none → ∀ r ∈ f.children, r.IsGroup := by
  induction h with
  | file _ hc =>
    intro f hf _
    rw [List.mem_singleton.mp hf]
    exact hc
  | group hd _ ih =>
    intro f hf hn
    rcases List.mem_cons.mp hf with rfl | hf
    · rw [hn] at hd
      exact absurd hd Bool.false_ne_true
    · exact ih f hf hn

/-- Nesting does not depend on what is pending. -/
theorem Nested.withPending {frame : Frame ν} {outer : List (Frame ν)} (h : Nested frame outer)
    (pending : List ν) : Nested { frame with pending := pending } outer := by
  cases h with
  | file hn hc => exact .file hn hc
  | group hd ho => exact .group hd ho

/-- A group may be added to any frame. -/
theorem Nested.addGroup {frame : Frame ν} {outer : List (Frame ν)} (h : Nested frame outer)
    (g : TestGroup) : Nested { frame with children := g.toNode :: frame.children } outer := by
  cases h with
  | file hn hc =>
    refine .file hn (fun r hr => ?_)
    rcases List.mem_cons.mp hr with rfl | hr
    · exact ⟨g, rfl⟩
    · exact hc r hr
  | group hd ho => exact .group hd ho

/-- A case may be added to the frame of a group. -/
theorem Nested.addCase {frame : Frame ν} {outer : List (Frame ν)} (h : Nested frame outer)
    (hd : frame.description.isSome) (c : TestCase) :
    Nested { frame with children := .case c :: frame.children } outer := by
  cases h with
  | file hn _ =>
    rw [hn] at hd
    exact absurd hd Bool.false_ne_true
  | group hd ho => exact .group hd ho

/-! ## What frames come to -/

section Settle

variable (file : SourceFile ν) (oracle : TypeOracle ν)

/-- **What a frame will hold** once its pending nodes are visited. -/
def results (frame : Frame ν) : List TestNode :=
  frame.children.reverse
    ++ frame.pending.flatMap (file.visit oracle frame.description.isSome)

/-- **What the file will hold** once all frames are closed. -/
def settle (frame : Frame ν) : List (Frame ν) → List TestNode
  | [] => results file oracle frame
  | parent :: outer =>
    settle { parent with
      children :=
        .group (frame.description.getD "") (results file oracle frame) :: parent.children } outer

/-- Frames of the same group with the same results settle to the same. -/
theorem settle_congr {frame frame' : Frame ν} (outer : List (Frame ν))
    (hd : frame.description = frame'.description)
    (hr : results file oracle frame = results file oracle frame') :
    settle file oracle frame outer = settle file oracle frame' outer := by
  cases outer with
  | nil => exact hr
  | cons parent outer => rw [settle, settle, hd, hr]

/-- Before the first step, the file will hold what the recursion finds. -/
theorem settle_start :
    settle file oracle ⟨none, [], [file.root]⟩ [] = file.visit oracle false file.root := by
  show [] ++ [file.root].flatMap (file.visit oracle false) = _
  rw [List.nil_append, List.flatMap_singleton]

/-! ## A step -/

/-- **Looking at a node keeps the nesting and what the file will hold.** -/
theorem look_spec {frame : Frame ν} {outer : List (Frame ν)} {n : ν} {pending : List ν}
    (h : Nested frame outer) (hp : frame.pending = n :: pending) :
    ∃ frame' outer',
      look file oracle n { frame with pending := pending } ++ outer = frame' :: outer'
        ∧ Nested frame' outer'
        ∧ settle file oracle frame' outer' = settle file oracle frame outer := by
  have hvisit : results file oracle frame
      = frame.children.reverse ++ (file.visit oracle frame.description.isSome n
        ++ pending.flatMap (file.visit oracle frame.description.isSome)) := by
    rw [results, hp, List.flatMap_cons]
  rw [SourceFile.visit_eq] at hvisit
  unfold look
  cases hs : file.site? n with
  | none =>
    -- its children are pending in its place
    refine ⟨_, outer, rfl, h.withPending _, ?_⟩
    refine settle_congr file oracle outer (by rfl) ?_
    rw [hvisit, hs, results, List.flatMap_append]
  | some site =>
    cases site with
    | group description callback =>
      -- the group that was opened is settled into the frame it was found in
      refine ⟨_, _, rfl, .group rfl (h.withPending pending), ?_⟩
      show settle file oracle _ outer = _
      refine settle_congr file oracle outer (by rfl) ?_
      rw [hvisit, hs]
      simp [results]
    | test description callback =>
      cases hd : frame.description.isSome with
      | false =>
        -- outside of any group a test leaves nothing
        refine ⟨_, outer, rfl, h.withPending pending, ?_⟩
        refine settle_congr file oracle outer (by rfl) ?_
        rw [hvisit, hs, hd]
        simp [results, hd]
      | true =>
        refine ⟨_, outer, rfl, (h.withPending pending).addCase hd _, ?_⟩
        refine settle_congr file oracle outer (by rfl) ?_
        rw [hvisit, hs, hd]
        simp [results, hd]

/-- **A step that goes on keeps the nesting and what the file will hold.** -/
theorem step_going {frame : Frame ν} {outer frames : List (Frame ν)} (h : Nested frame outer)
    (hs : step file oracle (frame :: outer) = .going frames) :
    ∃ frame' outer', frames = frame' :: outer' ∧ Nested frame' outer'
      ∧ settle file oracle frame' outer' = settle file oracle frame outer := by
  unfold step at hs
  cases hp : frame.pending with
  | cons n pending =>
    obtain ⟨frame', outer', hl, hn, he⟩ := look_spec file oracle h hp
    simp only [hp, Progress.going.injEq] at hs
    exact ⟨frame', outer', hs.symm.trans hl, hn, he⟩
  | nil =>
    simp only [hp] at hs
    cases h with
    | file hn _ => simp [close, hn] at hs
    | @group frame parent outer hd ho =>
      obtain ⟨description, hdesc⟩ := Option.isSome_iff_exists.mp hd
      simp only [close, hdesc, Progress.going.injEq] at hs
      -- with nothing pending, the group is closed into the frame around it
      refine ⟨_, outer, hs.symm, ho.addGroup _, ?_⟩
      show settle file oracle _ outer = settle file oracle _ outer
      refine settle_congr file oracle outer (by rfl) ?_
      simp [results, hp, hdesc, TestGroup.toNode]

/-- **The last step gives what the file holds.** -/
theorem step_finished {frame : Frame ν} {outer : List (Frame ν)} {groups : List TestGroup}
    (h : Nested frame outer) (hs : step file oracle (frame :: outer) = .finished groups) :
    groups.map TestGroup.toNode = settle file oracle frame outer := by
  unfold step at hs
  cases hp : frame.pending with
  | cons n pending =>
    simp only [hp] at hs
    cases hs
  | nil =>
    simp only [hp] at hs
    cases h with
    | group hd ho =>
      obtain ⟨description, hdesc⟩ := Option.isSome_iff_exists.mp hd
      simp [close, hdesc] at hs
    | file hn hc =>
      simp only [close, hn, Progress.finished.injEq] at hs
      rw [← hs, TestNode.map_toNode_filterMap_group?
        (fun r hr => hc r (List.mem_reverse.mp hr))]
      simp [settle, results, hp]

/-! ## A whole search -/

/-- **The search finds what the frames come to.** -/
theorem map_toNode_run (frames : List (Frame ν)) (frame : Frame ν) (outer : List (Frame ν))
    (hf : frames = frame :: outer) (h : Nested frame outer) :
    (run file oracle frames).map TestGroup.toNode = settle file oracle frame outer := by
  fun_induction run file oracle frames generalizing frame outer with
  | case1 frames frames' hs ih =>
    subst hf
    obtain ⟨frame', outer', rfl, hn, he⟩ := step_going file oracle h hs
    rw [ih frame' outer' rfl hn, he]
  | case2 frames groups hs =>
    subst hf
    exact step_finished file oracle h hs

/-- **The frames that a search gets to.** -/
def Reached (frames : List (Frame ν)) : Prop :=
  Relation.ReflTransGen (fun a b => step file oracle a = .going b) (start file) frames

/-- **The frames are nested throughout the search.** -/
theorem nested_of_reached {frames : List (Frame ν)} (h : Reached file oracle frames) :
    ∃ frame outer, frames = frame :: outer ∧ Nested frame outer := by
  induction h with
  | refl => exact ⟨_, [], rfl, nested_start file⟩
  | tail _ hs ih =>
    obtain ⟨frame, outer, rfl, hn⟩ := ih
    obtain ⟨frame', outer', hf, hn', _⟩ := step_going file oracle hn hs
    exact ⟨frame', outer', hf, hn'⟩

end Settle

end Walk

/-- The search returns what the recursion finds at the root. -/
theorem SourceFile.map_toNode_walk_eq (file : SourceFile ν) (oracle : TypeOracle ν) :
    (file.walk oracle).map TestGroup.toNode = file.visit oracle false file.root :=
  (Walk.map_toNode_run file oracle _ _ _ rfl (Walk.nested_start file)).trans
    (Walk.settle_start file oracle)

/-- **The search for tests is the recursion**: it returns, as trees, exactly what
`visit` finds at the root outside of any group. The frame of the file never holds
anything but groups, and whenever the innermost frame is that of a group there is a
frame around it to close it into. -/
theorem SourceFile.map_toNode_walk (file : SourceFile ν) (oracle : TypeOracle ν) :
    (file.walk oracle).map TestGroup.toNode = file.visit oracle false file.root
      ∧ (∀ frames, Walk.Reached file oracle frames →
          ∀ frame ∈ frames, frame.description = none → ∀ r ∈ frame.children, r.IsGroup)
      ∧ ∀ frame outer, Walk.Reached file oracle (frame :: outer) →
          frame.description.isSome → outer ≠ [] := by
  refine ⟨file.map_toNode_walk_eq oracle, fun frames hr => ?_, fun frame outer hr hd => ?_⟩
  · obtain ⟨frame, outer, rfl, hn⟩ := Walk.nested_of_reached file oracle hr
    exact hn.isGroup_of_mem
  · obtain ⟨frame', outer', hf, hn⟩ := Walk.nested_of_reached file oracle hr
    obtain ⟨rfl, rfl⟩ := List.cons.inj hf
    exact hn.outer_ne_nil hd

end TypeTest
