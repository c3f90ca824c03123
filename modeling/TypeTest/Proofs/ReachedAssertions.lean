import Mathlib.Data.List.Basic
import TypeTest.Proofs.WalkVisit

/-!
# Every failed case has its call in the file

The search for tests reads nodes through their shapes: the callback of a test, the body
of a callback, the elements of an array. Whoever looks for calls reads the children of
nodes instead. A host whose shapes show nothing but children makes the two agree: what
the search gets to lies below the root, so each case that fails does so by a call that
is found among all calls of the file.
-/

namespace TypeTest

variable {ν : Type}

/-- The callback of a group or of a test. -/
def Site.callback : Site ν → ν
  | .group _ callback | .test _ callback => callback

namespace SourceFile

/-- The callback of a group or of a test is shown by the shape of the call. -/
theorem callback_mem_parts {file : SourceFile ν} {n : ν} {site : Site ν}
    (h : file.site? n = some site) : site.callback ∈ (file.shape n).parts := by
  unfold site? at h
  split at h
  · rename_i callee types description callback more hn
    rw [hn]
    have hc : callback ∈ (Shape.call callee types (description :: callback :: more)).parts := by
      simp [Shape.parts]
    split at h
    · split at h
      · cases h
        exact hc
      · split at h
        · cases h
          exact hc
        · cases h
    · cases h
  · cases h

/-- A verdict on several calls that is a failure is that on one of them. -/
theorem exists_of_firstFailure {file : SourceFile ν} {oracle : TypeOracle ν} {calls : List ν}
    {detail : FailureDetail} (h : file.firstFailure oracle calls = .fail detail) :
    ∃ call ∈ calls, file.verdict oracle call = .fail detail := by
  unfold firstFailure at h
  cases hf : (calls.map (file.verdict oracle)).find? fun v => v.status.isFailed with
  | none =>
    rw [hf] at h
    cases h
  | some v =>
    rw [hf] at h
    obtain rfl : v = .fail detail := h
    exact List.mem_map.mp (List.mem_of_find?_eq_some hf)

/-- **What the shape of a node shows are children** of the node. -/
def ShowsChildren (file : SourceFile ν) : Prop :=
  ∀ n, ∀ m ∈ (file.shape n).parts, m ∈ file.children n

/-- What lies below a node below another lies below that one. -/
theorem mem_descendants_trans (file : SourceFile ν) {k m : ν} (hk : k ∈ file.descendants m)
    (n : ν) (hm : m ∈ file.descendants n) : k ∈ file.descendants n := by
  induction n using file.wellFounded.induction with
  | _ n ih =>
    rw [descendants_eq] at hm
    rcases List.mem_cons.mp hm with rfl | hm
    · exact hk
    · obtain ⟨c, hc, hm⟩ := List.mem_flatMap.mp hm
      rw [descendants_eq]
      exact List.mem_cons_of_mem _ (List.mem_flatMap.mpr ⟨c, hc, ih c (.child hc) hm⟩)

theorem mem_descendants_of_mem_children (file : SourceFile ν) {c n : ν}
    (h : c ∈ file.children n) : c ∈ file.descendants n := by
  rw [descendants_eq]
  exact List.mem_cons_of_mem _ (List.mem_flatMap.mpr ⟨c, h, file.mem_descendants_self c⟩)

section ShowsChildren

variable {file : SourceFile ν} (hs : file.ShowsChildren)

include hs

/-- A node that a node below another shows lies below that one too. -/
theorem mem_descendants_of_mem_parts {k m n : ν} (hk : k ∈ (file.shape m).parts)
    (hm : m ∈ file.descendants n) : k ∈ file.descendants n :=
  file.mem_descendants_trans (file.mem_descendants_of_mem_children (hs m k hk)) n hm

/-- **The assertions of a test are calls below its callback.** -/
theorem mem_callsWithin_of_mem_assertions {call callback : ν}
    (h : call ∈ file.assertions callback) : call ∈ file.callsWithin callback := by
  have hself := file.mem_descendants_self callback
  unfold assertions at h
  split at h
  · rename_i body hb
    obtain ⟨hm, hcall⟩ := mem_callsWithin.mp h
    have hbody : body ∈ (file.shape callback).parts := by
      rw [hb]
      exact List.mem_singleton_self body
    exact mem_callsWithin.mpr
      ⟨file.mem_descendants_trans hm _ (mem_descendants_of_mem_parts hs hbody hself), hcall⟩
  · rename_i elements he
    obtain ⟨hm, hcall⟩ := List.mem_filter.mp h
    have helement : call ∈ (file.shape callback).parts := by
      rw [he]
      exact hm
    exact mem_callsWithin.mpr ⟨mem_descendants_of_mem_parts hs helement hself, hcall⟩
  · rename_i properties hp
    obtain ⟨p, hm, hcall⟩ := List.mem_filterMap.mp h
    have hproperty : p ∈ (file.shape callback).parts := by
      rw [hp]
      exact hm
    split at hcall
    · rename_i key initializer hi
      split at hcall
      · rename_i hc
        cases hcall
        have hvalue : call ∈ (file.shape p).parts := by
          rw [hi]
          exact List.mem_singleton_self call
        exact mem_callsWithin.mpr ⟨mem_descendants_of_mem_parts hs hvalue
          (mem_descendants_of_mem_parts hs hproperty hself), hc⟩
      · cases hcall
    · cases hcall
  · exact absurd h List.not_mem_nil

/-- **The cases of a node are those of tests introduced below it.** -/
theorem exists_test_of_mem_cases_visit (oracle : TypeOracle ν) (inside : Bool) (n : ν) :
    ∀ r ∈ file.visit oracle inside n, ∀ c ∈ r.cases,
      ∃ m ∈ file.descendants n, ∃ description callback,
        file.site? m = some (.test description callback)
          ∧ c = file.testCase oracle description callback := by
  induction n using file.wellFounded.induction generalizing inside with
  | _ n ih =>
    intro r hr c hc
    have hself := file.mem_descendants_self n
    rw [visit_eq] at hr
    split at hr
    · rename_i description callback hsite
      obtain rfl := List.mem_singleton.mp hr
      rw [TestNode.cases, TestNode.mem_casesOf] at hc
      obtain ⟨r, hr, hc⟩ := hc
      obtain ⟨body, hbody, hr⟩ := List.mem_flatMap.mp hr
      have hb := Option.mem_toList.mp hbody
      obtain ⟨m, hm, htest⟩ := ih body (beneath_of_site? hsite hb) true r hr c hc
      have hcallback := mem_descendants_of_mem_parts hs (callback_mem_parts hsite) hself
      exact ⟨m, file.mem_descendants_trans hm n
        (mem_descendants_of_mem_parts hs (Shape.mem_parts_of_body? hb) hcallback), htest⟩
    · rename_i description callback hsite
      split at hr
      · obtain rfl := List.mem_singleton.mp hr
        obtain rfl := List.mem_singleton.mp hc
        exact ⟨n, hself, description, callback, hsite, rfl⟩
      · exact absurd hr List.not_mem_nil
    · obtain ⟨child, hchild, hr⟩ := List.mem_flatMap.mp hr
      obtain ⟨m, hm, htest⟩ := ih child (.child hchild) inside r hr c hc
      exact ⟨m, file.mem_descendants_trans hm n
        (file.mem_descendants_of_mem_children hchild), htest⟩

/-- **Every case of a file is that of a test** which is introduced below the root. -/
theorem exists_test_of_mem_walk (oracle : TypeOracle ν) {g : TestGroup} {c : TestCase}
    (hg : g ∈ file.walk oracle) (hc : c ∈ g.toNode.cases) :
    ∃ m ∈ file.descendants file.root, ∃ description callback,
      file.site? m = some (.test description callback)
        ∧ c = file.testCase oracle description callback := by
  have hr : g.toNode ∈ file.visit oracle false file.root := by
    rw [← file.map_toNode_walk_eq oracle]
    exact List.mem_map_of_mem hg
  exact exists_test_of_mem_cases_visit hs oracle false file.root _ hr c hc

/-- The callback of what a node introduces lies below the node. -/
theorem callback_mem_descendants {m n : ν} {site : Site ν} (h : file.site? m = some site)
    (hm : m ∈ file.descendants n) : site.callback ∈ file.descendants n :=
  mem_descendants_of_mem_parts hs (callback_mem_parts h) hm

/-- **A case that fails does so by a failing call of the file.** -/
theorem exists_call_of_failed_case (oracle : TypeOracle ν) {g : TestGroup} {c : TestCase}
    {detail : FailureDetail} (hg : g ∈ file.walk oracle) (hc : c ∈ g.toNode.cases)
    (hv : c.verdict = .fail detail) :
    ∃ call ∈ file.callsWithin file.root, file.verdict oracle call = .fail detail := by
  obtain ⟨m, hm, d, callback, htest, rfl⟩ := exists_test_of_mem_walk hs oracle hg hc
  have hk := callback_mem_descendants hs htest hm
  obtain ⟨call, hcall, he⟩ := exists_of_firstFailure hv
  obtain ⟨hcall, hshape⟩ := mem_callsWithin.mp (mem_callsWithin_of_mem_assertions hs hcall)
  exact ⟨call, mem_callsWithin.mpr ⟨file.mem_descendants_trans hcall _ hk, hshape⟩, he⟩

end ShowsChildren

end SourceFile

end TypeTest
