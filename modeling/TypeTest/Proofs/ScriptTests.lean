import TypeTest.Proofs.EditorAgreement

/-!
# The tests of a script

The search for tests reads a file of any host through references to its nodes. In a script it
never leaves the tree that it starts in, and a recursion over the nodes themselves lists what it
finds: `Node.tests`, which can be computed. **The cases of a script are those of the tests
listed**, in their order (`ScriptFile.cases_walk`).
-/

namespace TypeTest

/-- The same place over other references to nodes. -/
def Site.map {ν μ : Type} (f : ν → μ) : Site ν → Site μ
  | .group description callback => .group (f description) (f callback)
  | .test description callback => .test (f description) (f callback)

namespace Node

/-- What a node of a script introduces. -/
def site? (n : Node) : Option (Site Node) :=
  match n.shape with
  | .call callee _ (description :: callback :: _) =>
    match callee.shape with
    | .identifier name =>
      if groupNames.contains name && callback.shape.isFunctionLike then
        some (.group description callback)
      else if testNames.contains name then some (.test description callback)
      else none
    | _ => none
  | _ => none

/-- The callback of what a node introduces is a part of the node. -/
theorem callback_mem_children {n : Node} {site : Site Node} (h : n.site? = some site) :
    site.callback ∈ n.children := by
  unfold site? at h
  split at h
  · rename_i callee types description callback more hn
    have hmem : callback ∈ n.children := Form.mem_children_of_call hn (by simp)
    split at h
    · split at h
      · cases h
        exact hmem
      · split at h
        · cases h
          exact hmem
        · cases h
    · cases h
  · cases h

/-- **The tests below a node**, `inside` a group or not, each with its description and its
callback. -/
def tests (inside : Bool) (n : Node) : List (Node × Node) :=
  match _hs : n.site? with
  | some (.group _ callback) =>
    match _hb : callback.shape.body? with
    | some body => body.tests true
    | none => []
  | some (.test description callback) => if inside then [(description, callback)] else []
  | none => n.children.attach.flatMap fun c => c.1.tests inside
termination_by sizeOf n
decreasing_by
  · exact Nat.lt_trans (sizeOf_lt_of_mem_children (Form.mem_children_of_body? _hb))
      (sizeOf_lt_of_mem_children (callback_mem_children _hs))
  · exact sizeOf_lt_of_mem_children c.2

theorem tests_eq (inside : Bool) (n : Node) :
    n.tests inside =
      match n.site? with
      | some (.group _ callback) => callback.shape.body?.toList.flatMap (tests true)
      | some (.test description callback) => if inside then [(description, callback)] else []
      | none => n.children.flatMap (tests inside) := by
  rw [tests]
  split
  · rename_i hs
    split <;> rename_i hb <;> simp [hs, hb]
  · rename_i hs
    rw [hs]
  · rename_i hs
    rw [hs, List.flatMap_subtype (fun _ _ => rfl), List.unattach_attach]

end Node

namespace ScriptFile

variable (file : ScriptFile) (i : Nat)

theorem site?_toSource (n : Node) :
    (file.toSource i).site? ⟨i, n⟩ = n.site?.map (.map (⟨i, ·⟩)) := by
  have hfunction : ∀ m : Node, ((file.toSource i).shape ⟨i, m⟩).isFunctionLike
      = m.shape.isFunctionLike := fun m => by rw [shape_toSource, Shape.isFunctionLike_map]
  unfold SourceFile.site? Node.site?
  rw [shape_toSource]
  match n.shape with
  | .call _ _ [] | .call _ _ [_] => rfl
  | .call callee _ (_ :: _ :: _) =>
    rw [Shape.map, List.map_cons, List.map_cons]
    dsimp only
    rw [shape_toSource, hfunction]
    cases callee.shape with
    | identifier name =>
      dsimp only [Shape.map]
      split
      · rfl
      · split <;> rfl
    | _ => rfl
  | .identifier _ | .stringLiteral _ | .propertyAccess .. | .functionLike _ | .arrayLiteral _
  | .objectLiteral _ | .propertyAssignment .. | .other => rfl

variable (oracle : TypeOracle NodeRef)

/-- The case of a test that is listed. -/
def caseOf (t : Node × Node) : TestCase :=
  (file.toSource i).testCase oracle ⟨i, t.1⟩ ⟨i, t.2⟩

/-- **What the search finds below a node are the tests listed**, as cases. -/
theorem cases_visit (inside : Bool) (n : Node) :
    ((file.toSource i).visit oracle inside ⟨i, n⟩).flatMap TestNode.cases
      = (n.tests inside).map (file.caseOf i oracle) := by
  induction inside, n using Node.tests.induct with
  | case1 inside n description callback hs body hb ih =>
    have hbody : ((file.toSource i).shape ⟨i, callback⟩).body? = some ⟨i, body⟩ := by
      rw [shape_toSource, Shape.body?_map, hb]
      rfl
    rw [SourceFile.visit_eq, site?_toSource, hs, Node.tests_eq, hs]
    dsimp only [Option.map, Site.map]
    rw [hbody, hb, Option.toList_some, Option.toList_some, List.flatMap_singleton,
      List.flatMap_singleton, List.flatMap_singleton, ← ih, TestNode.cases, TestNode.casesOf_eq]
  | case2 inside n description callback hs hb =>
    have hbody : ((file.toSource i).shape ⟨i, callback⟩).body? = none := by
      rw [shape_toSource, Shape.body?_map, hb]
      rfl
    rw [SourceFile.visit_eq, site?_toSource, hs, Node.tests_eq, hs]
    dsimp only [Option.map, Site.map]
    rw [hbody, hb]
    rfl
  | case3 n description callback hs =>
    rw [SourceFile.visit_eq, site?_toSource, hs, Node.tests_eq, hs]
    rfl
  | case4 inside n description callback hs hinside =>
    rw [SourceFile.visit_eq, site?_toSource, hs, Node.tests_eq, hs]
    dsimp only [Option.map, Site.map]
    rw [if_neg hinside, if_neg hinside]
    rfl
  | case5 inside n hs ih =>
    rw [SourceFile.visit_eq, site?_toSource, hs, Node.tests_eq, hs]
    dsimp only [Option.map]
    rw [children_toSource, List.flatMap_map, List.flatMap_assoc, List.map_flatMap]
    rw [List.flatMap_def, List.flatMap_def]
    exact congrArg List.flatten (List.map_congr_left fun c hc => ih ⟨c, hc⟩)

/-- **The cases of a script are those of its tests.** -/
theorem cases_walk :
    ((file.toSource i).walk oracle).flatMap (·.toNode.cases)
      = (file.root.tests false).map (file.caseOf i oracle) := by
  rw [← cases_visit]
  have hwalk := (file.toSource i).map_toNode_walk_eq oracle
  show _ = ((file.toSource i).visit oracle false (file.toSource i).root).flatMap _
  rw [← hwalk, List.flatMap_map]

/-- The case of a test of a script is in one of the groups found. -/
theorem exists_group_of_mem_tests {t : Node × Node} (h : t ∈ file.root.tests false) :
    ∃ g ∈ (file.toSource i).walk oracle, file.caseOf i oracle t ∈ g.toNode.cases := by
  rw [← List.mem_flatMap, cases_walk]
  exact List.mem_map_of_mem h

end ScriptFile

end TypeTest
