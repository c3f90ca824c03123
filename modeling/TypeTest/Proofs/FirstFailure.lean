import Mathlib.Data.List.Flatten
import TypeTest.Proofs.Parsing.TreeInText
import TypeTest.Proofs.ScriptTests

/-!
# The first failure of a test counts

A test fails if one of its assertions does, and tells of one failure only. The search takes
the first in the list of assertions, and the list is in the order in which nodes are listed:
each before its parts. In a script this is the order of the text. A call that is listed before
another lies before it or around it (`Node.TreeIn.before_or_around`), and no two calls have the
same range, so it **precedes** the other: it starts further left, or at the same place and is
longer (`ScriptFile.pairwise_precedes_assertions`). In a chain of calls on each other, which
all start together, the last call of the chain comes first.

That the verdict of a test is that of the one failing assertion which precedes all others is
then a fact about lists in any order (`SourceFile.firstFailure_eq_fail_iff`).
-/

namespace TypeTest

/-! ## What a test asserts -/

namespace SourceFile

variable {ν : Type} {file : SourceFile ν}

/-- **What a test asserts by its callback**: all calls in the body of a function, but only
those that are themselves elements of an array or values of an object. -/
inductive Asserts (file : SourceFile ν) (callback : ν) : ν → Prop where
  | inBody {body call : ν} : file.shape callback = .functionLike (some body) →
    call ∈ file.descendants body → (file.shape call).isCall = true → Asserts file callback call
  | element {elements : List ν} {call : ν} : file.shape callback = .arrayLiteral elements →
    call ∈ elements → (file.shape call).isCall = true → Asserts file callback call
  | value {properties : List ν} {property call : ν} {name : String} :
    file.shape callback = .objectLiteral properties → property ∈ properties →
    file.shape property = .propertyAssignment name call → (file.shape call).isCall = true →
    Asserts file callback call

theorem mem_assertions_iff {callback call : ν} :
    call ∈ file.assertions callback ↔ file.Asserts callback call := by
  constructor
  · intro h
    unfold assertions at h
    split at h
    · rename_i body hb
      obtain ⟨hm, hcall⟩ := mem_callsWithin.mp h
      exact .inBody hb hm hcall
    · rename_i elements he
      obtain ⟨hm, hcall⟩ := List.mem_filter.mp h
      exact .element he hm hcall
    · rename_i properties hp
      obtain ⟨property, hm, h⟩ := List.mem_filterMap.mp h
      split at h
      · rename_i name initializer hi
        split at h
        · rename_i hcall
          cases h
          exact .value hp hm hi hcall
        · cases h
      · cases h
    · exact absurd h List.not_mem_nil
  · intro h
    unfold assertions
    cases h with
    | inBody hb hm hcall =>
      rw [hb]
      exact mem_callsWithin.mpr ⟨hm, hcall⟩
    | element he hm hcall =>
      rw [he]
      exact List.mem_filter.mpr ⟨hm, hcall⟩
    | @value _ property _ _ hp hm hi hcall =>
      rw [hp]
      refine List.mem_filterMap.mpr ⟨property, hm, ?_⟩
      rw [hi]
      exact if_pos hcall

/-! ## The first of several failures -/

variable {oracle : TypeOracle ν} {calls : List ν}

/-- **The failure of several calls is that of the failing call which comes before all other
failing ones**, in any order that the calls are listed in. -/
theorem firstFailure_eq_fail_iff {before : ν → ν → Prop} (hcalls : calls.Pairwise before)
    (hbefore : ∀ a b, before a b → ¬ before b a) {detail : FailureDetail} :
    file.firstFailure oracle calls = .fail detail
      ↔ ∃ call ∈ calls, file.verdict oracle call = .fail detail
        ∧ ∀ other ∈ calls, (file.verdict oracle other).status.isFailed = true → other ≠ call →
            before call other := by
  induction calls with
  | nil =>
    refine ⟨fun h => ?_, fun ⟨_, h, _⟩ => absurd h List.not_mem_nil⟩
    cases h
  | cons first calls ih =>
    obtain ⟨hfirst, hcalls⟩ := List.pairwise_cons.mp hcalls
    rw [firstFailure_cons]
    split
    · rename_i hfailed
      constructor
      · intro hv
        refine ⟨first, List.mem_cons_self, hv, fun other hother _ hne => ?_⟩
        exact hfirst other ((List.mem_cons.mp hother).resolve_left hne)
      · rintro ⟨call, hcall, hv, hall⟩
        rcases List.mem_cons.mp hcall with rfl | hmem
        · exact hv
        · by_cases he : first = call
          · exact he ▸ hv
          -- the first call would stand on both sides of the other one
          · exact absurd (hall first List.mem_cons_self hfailed he)
              (hbefore _ _ (hfirst call hmem))
    · rename_i hpassed
      rw [ih hcalls]
      constructor
      · rintro ⟨call, hcall, hv, hall⟩
        refine ⟨call, List.mem_cons_of_mem _ hcall, hv, fun other hother hfailed hne => ?_⟩
        rcases List.mem_cons.mp hother with rfl | hother
        · exact absurd hfailed hpassed
        · exact hall other hother hfailed hne
      · rintro ⟨call, hcall, hv, hall⟩
        rcases List.mem_cons.mp hcall with rfl | hcall
        · rw [hv] at hpassed
          exact absurd rfl hpassed
        · exact ⟨call, hcall, hv, fun other hother => hall other (List.mem_cons_of_mem _ hother)⟩

end SourceFile

/-! ## The order of the text -/

/-- **A range precedes another**: it starts further left, or at the same place and is longer. -/
def TextRange.Precedes (r s : TextRange) : Prop :=
  r.start < s.start ∨ r.start = s.start ∧ s.length < r.length

theorem TextRange.Precedes.not_precedes {r s : TextRange} (h : r.Precedes s) :
    ¬ s.Precedes r := by
  unfold Precedes at *
  omega

namespace Node

/-- The nodes below a node are listed in the same order as those below a node around it. -/
theorem descendants_sublist {m n : Node} (h : m ∈ n.descendants) :
    m.descendants.Sublist n.descendants := by
  induction n using descendants.induct with
  | _ n ih =>
    rw [descendants_eq n] at h ⊢
    rcases List.mem_cons.mp h with rfl | h
    · rw [descendants_eq]
    · obtain ⟨c, hc, h⟩ := List.mem_flatMap.mp h
      have hpart := (List.singleton_sublist.mpr hc).flatMap descendants
      rw [List.flatMap_singleton] at hpart
      exact ((ih ⟨c, hc⟩ h).trans hpart).cons _

theorem calls_sublist {m n : Node} (h : m ∈ n.descendants) : m.calls.Sublist n.calls :=
  (descendants_sublist h).filter _

/-- A call is the first of the calls below it. -/
theorem singleton_sublist_calls {n : Node} (h : n.shape.isCall = true) : [n].Sublist n.calls := by
  have hself : [n].filter (·.shape.isCall) = [n] := List.filter_cons_of_pos h
  rw [calls_eq, hself]
  exact List.sublist_append_left _ _

theorem calls_sublist_of_mem_parts {m n : Node} (h : m ∈ n.shape.parts) :
    m.calls.Sublist n.calls :=
  calls_sublist (mem_descendants_of_mem_children (Form.mem_children_of_mem_parts h))

/-- A list that takes from each part of a node calls below that part, in their order, has
them in the order of the calls below the node. -/
theorem flatMap_sublist_calls {n : Node} {f : Node → List Node}
    (h : ∀ c ∈ n.children, (f c).Sublist c.calls) : (n.children.flatMap f).Sublist n.calls := by
  rw [calls_eq]
  exact (List.Sublist.flatMap_right _ h).trans (List.sublist_append_right _ _)

theorem children_of_arrayLiteral {n : Node} {elements : List Node}
    (h : n.shape = .arrayLiteral elements) : n.children = elements := by
  unfold shape at h
  unfold children
  cases hf : n.form <;> rw [hf] at h <;> cases h
  rfl

theorem children_of_objectLiteral {n : Node} {properties : List Node}
    (h : n.shape = .objectLiteral properties) : n.children = properties := by
  unfold shape at h
  unfold children
  cases hf : n.form <;> rw [hf] at h <;> cases h
  rfl

/-- **The assertions of a test are listed as the calls below its callback are.** -/
theorem assertions_sublist_calls (callback : Node) :
    callback.assertions.Sublist callback.calls := by
  unfold assertions
  split
  · rename_i body hb
    refine calls_sublist_of_mem_parts ?_
    rw [hb]
    exact List.mem_singleton_self body
  · rename_i elements he
    rw [← children_of_arrayLiteral he, ← List.flatMap_singleton' callback.children,
      List.filter_flatMap]
    refine flatMap_sublist_calls fun e _ => ?_
    rw [List.filter_singleton]
    cases hcall : e.shape.isCall with
    | true => exact singleton_sublist_calls hcall
    | false => exact List.nil_sublist _
  · rename_i properties hp
    rw [← children_of_objectLiteral hp, List.filterMap_eq_flatMap_toList]
    refine flatMap_sublist_calls fun p _ => ?_
    split
    · rename_i name initializer hi
      split
      · rename_i hcall
        refine (singleton_sublist_calls hcall).trans (calls_sublist_of_mem_parts ?_)
        rw [hi]
        exact List.mem_singleton_self initializer
      · exact List.nil_sublist _
    · exact List.nil_sublist _
  · exact List.nil_sublist _

/-- **A call that is listed before another precedes it** in the text. -/
theorem TreeIn.pairwise_precedes_calls {text : String} {root : Node} (h : root.TreeIn text)
    (hroot : root.shape.isCall = false) :
    root.calls.Pairwise fun a b => a.range.Precedes b.range := by
  have horder : root.calls.Pairwise _ :=
    (h.before_or_around root.mem_descendants_self).filter (·.shape.isCall)
  have hne : root.calls.Pairwise _ := List.pairwise_map.mp h.calls
  refine (horder.and hne).imp_of_mem fun {a b} ha hb hab => ?_
  obtain ⟨horder, hne⟩ := hab
  have hpos : 0 < a.range.length := by
    refine h.nonempty a (mem_descendants_of_mem_calls ha) fun he => ?_
    obtain rfl := List.inj_on_of_nodup_map h.once (mem_descendants_of_mem_calls ha)
      root.mem_descendants_self he
    rw [(List.mem_filter.mp ha).2] at hroot
    cases hroot
  have hne : a.range.start = b.range.start → a.range.length ≠ b.range.length := fun hs hl =>
    hne (TextRange.mk.injEq .. ▸ ⟨hs, hl⟩)
  unfold TextRange.Precedes
  unfold TextRange.stop at horder
  omega

end Node

namespace ScriptFile

/-- The root of a script is no call. -/
theorem isCall_root (file : ScriptFile) : file.root.shape.isCall = false := by
  obtain ⟨ts, _, statements, stop, index, hroot, _⟩ := exists_placed_of_parseTree file.parsed
  rw [hroot]
  rfl

variable (file : ScriptFile) (i : Nat)

/-- **The assertions of a test of a script precede each other** in the order in which they are
listed. -/
theorem pairwise_precedes_assertions {callback : NodeRef}
    (h : callback ∈ (file.toSource i).descendants (file.toSource i).root) :
    ((file.toSource i).assertions callback).Pairwise fun a b =>
      ((file.toSource i).range a).Precedes ((file.toSource i).range b) := by
  have hroot : (file.toSource i).root = ⟨i, file.root⟩ := rfl
  rw [hroot, descendants_toSource] at h
  obtain ⟨n, hn, rfl⟩ := List.mem_map.mp h
  have hcalls := (treeIn_of_parseTree file.parsed).pairwise_precedes_calls file.isCall_root
  rw [assertions_toSource, if_pos rfl, List.pairwise_map]
  refine (hcalls.sublist ((n.assertions_sublist_calls).trans (Node.calls_sublist hn))).imp ?_
  intro a b hab
  show (rangeIn i ⟨i, a⟩).Precedes (rangeIn i ⟨i, b⟩)
  rw [rangeIn, rangeIn, if_pos rfl, if_pos rfl]
  exact hab

end ScriptFile

/-- **The first failure of a test in the order of the text counts.** Every case of a file of a
program is that of a test in the file. It is failed exactly if one of the calls that the test
asserts by is, and the failure that it tells of is that of the failing call which precedes all
other failing ones: the one that starts first, and of those that start there the longest. -/
theorem ScriptProgram.first_failure_counts (p : ScriptProgram) :
    ∀ file ∈ p.toHost.files, ∀ g ∈ file.walk p.oracle, ∀ c ∈ g.toNode.cases,
      ∃ n ∈ file.descendants file.root, ∃ description callback,
        file.site? n = some (.test description callback)
          ∧ c = file.testCase p.oracle description callback
          ∧ (c.status = .failed
              ↔ ∃ call, file.Asserts callback call
                  ∧ (file.verdict p.oracle call).status = .failed)
          ∧ ∀ detail, c.verdict = .fail detail
              ↔ ∃ call, file.Asserts callback call ∧ file.verdict p.oracle call = .fail detail
                  ∧ ∀ other, file.Asserts callback other →
                      (file.verdict p.oracle other).status = .failed → other ≠ call →
                      (file.range call).Precedes (file.range other) := by
  intro file hfile g hg c hc
  obtain ⟨script, i, rfl⟩ := exists_script_of_mem_files hfile
  have hs := script.showsChildren i
  obtain ⟨n, hn, description, callback, hsite, rfl⟩ :=
    SourceFile.exists_test_of_mem_walk hs p.oracle hg hc
  have hcallback : callback ∈ _ := SourceFile.callback_mem_descendants hs hsite hn
  have horder := script.pairwise_precedes_assertions i hcallback
  refine ⟨n, hn, description, callback, hsite, rfl, ?_, fun detail => ?_⟩
  · simp only [TestCase.status, SourceFile.testCase, SourceFile.status_firstFailure,
      SourceFile.mem_assertions_iff]
  · show (script.toSource i).firstFailure p.oracle _ = .fail detail ↔ _
    rw [SourceFile.firstFailure_eq_fail_iff horder fun a b hab => hab.not_precedes]
    simp only [SourceFile.mem_assertions_iff, Status.isFailed_iff]

/-- A script whose test calls one failing function on what another one returns. -/
def chainedScript : ScriptFile :=
  (ScriptFile.parse "a.test.ts" ("declare function f(): RTT_FAIL<'inner'>; " ++
    "declare function check(): RTT_FAIL<'outer'>; " ++
    "describe('g', () => \x7b test('t', () => f().check()); \x7d);")).toOption.get
    (by decide +kernel)

namespace ScriptProgram

/-- The program of the script. -/
def chained : ScriptProgram := .ofFiles [chainedScript]

/-- The test fails by the call of `check`, which starts where that of `f` does and is longer. -/
theorem first_failure_chained :
    ∃ file ∈ chained.toHost.files, ∃ g ∈ file.walk chained.oracle, ∃ c ∈ g.toNode.cases,
      ∃ detail, c.verdict = .fail detail ∧ detail.message = ["outer"]
        ∧ ∃ callback call, file.Asserts callback call
          ∧ file.verdict chained.oracle call = .fail detail
          ∧ ∀ other, file.Asserts callback other →
              (file.verdict chained.oracle other).status = .failed → other ≠ call →
              (file.range call).Precedes (file.range other) := by
  have hcase : ∃ t ∈ chainedScript.root.tests false,
      (chainedScript.caseOf 0 chained.oracle t).verdict.detail?.map FailureDetail.message
        = some ["outer"] := by
    simp only [ScriptFile.caseOf, SourceFile.testCase, ScriptFile.assertions_toSource]
    decide +kernel
  obtain ⟨t, ht, hmessage⟩ := hcase
  obtain ⟨detail, hdetail, hmessage⟩ := Option.map_eq_some_iff.mp hmessage
  have hfile : chainedScript.toSource 0 ∈ chained.toHost.files := List.mem_cons_self
  obtain ⟨g, hg, hc⟩ := chainedScript.exists_group_of_mem_tests 0 chained.oracle ht
  obtain ⟨_, _, _, callback, _, _, _, hfirst⟩ := first_failure_counts chained _ hfile g hg _ hc
  have hv := Verdict.detail?_eq_some_iff.mp hdetail
  obtain ⟨call, hcall⟩ := (hfirst detail).mp hv
  exact ⟨_, hfile, g, hg, _, hc, detail, hv, hmessage, callback, call, hcall⟩

end ScriptProgram

end TypeTest
