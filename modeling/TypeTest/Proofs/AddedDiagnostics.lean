import Mathlib.Logic.Relation
import TypeTest.Proofs.ReachedAssertions
import TypeTest.Proofs.SortedDiagnostics
import TypeTest.Session.Editor

/-!
# What is added to the diagnostics of a session

A session that reports failing assertions adds to what another session reports. It has two
answers. Where nothing fails it repeats the other session word for word, unsorted and with
repetitions if that is how they come. Where something fails its answer is a **set** of
diagnostics in the one form that a set has, the increasing list (`Diagnostic.Increasing`):
all that the other session reports and one diagnostic for each failing call. So the order in
which the other session reports is forgotten, and nothing it reports is lost.

The answers fit together: wrapping twice adds the same calls to what already holds them, so
the set is the same, and with it the list.
-/

namespace TypeTest

variable {ν : Type}

/-! ## Calls that can be reached -/

namespace SourceFile

/-- **Going from a node to a child, and on**, any number of times. -/
def Reaches (file : SourceFile ν) : ν → ν → Prop :=
  Relation.ReflTransGen fun n c => c ∈ file.children n

/-- **The nodes below a node are those that can be reached from it.** -/
theorem mem_descendants_iff (file : SourceFile ν) {n m : ν} :
    m ∈ file.descendants n ↔ file.Reaches n m := by
  constructor
  · intro h
    induction n using file.wellFounded.induction with
    | _ n ih =>
      rw [descendants_eq] at h
      rcases List.mem_cons.mp h with rfl | h
      · exact .refl
      · obtain ⟨c, hc, hm⟩ := List.mem_flatMap.mp h
        exact .head hc (ih c (.child hc) hm)
  · intro h
    induction h with
    | refl => exact file.mem_descendants_self n
    | tail _ hc ih =>
      exact file.mem_descendants_trans (file.mem_descendants_of_mem_children hc) n ih

end SourceFile

/-- **A diagnostic on a failing call**: the call can be reached from the root of the file, and
the type that it returns holds the sentinel. What the diagnostic says is what the sentinel says,
which always says something (`Sentinel.exists_decode_iff`). -/
def IsFailingTest (file : SourceFile ν) (oracle : TypeOracle ν) (d : Diagnostic) : Prop :=
  ∃ call type, file.Reaches file.root call ∧ (file.shape call).isCall
    ∧ oracle.returnType call = some type ∧ Sentinel.token <:+: type.toList
    ∧ ∀ payload ∈ Sentinel.decode type, d = failingTest file call payload

/-- **The diagnostics on the failing calls of a file** are one for each of them. -/
theorem mem_failingTests_iff {file : SourceFile ν} {oracle : TypeOracle ν} {d : Diagnostic} :
    d ∈ failingTests file oracle ↔ IsFailingTest file oracle d := by
  rw [failingTests_eq_filterMap, List.mem_filterMap]
  constructor
  · rintro ⟨call, hcall, hd⟩
    obtain ⟨hreach, hshape⟩ := SourceFile.mem_callsWithin.mp hcall
    obtain ⟨payload, hp, rfl⟩ := Option.map_eq_some_iff.mp hd
    obtain ⟨type, ht, hdecode⟩ := Option.bind_eq_some_iff.mp hp
    refine ⟨call, type, file.mem_descendants_iff.mp hreach, hshape, ht,
      (Sentinel.exists_decode_iff type).mp ⟨payload, hdecode⟩, fun other hother => ?_⟩
    have hsame : payload = other := Option.some.inj (hdecode.symm.trans hother)
    rw [hsame]
  · rintro ⟨call, type, hreach, hshape, ht, htoken, hd⟩
    obtain ⟨payload, hdecode⟩ := (Sentinel.exists_decode_iff type).mpr htoken
    refine ⟨call, SourceFile.mem_callsWithin.mpr ⟨file.mem_descendants_iff.mpr hreach, hshape⟩, ?_⟩
    rw [TypeOracle.failure?, ht, Option.bind_some, hdecode, hd payload hdecode]
    rfl

/-! ## The two answers -/

namespace EditorSession

variable {s : EditorSession ν} {name : String} {file : SourceFile ν} {oracle : TypeOracle ν}

theorem file?_eq_none_iff :
    s.file? name = none
      ↔ s.program = none ∨ ∃ program, s.program = some program ∧ program.file? name = none := by
  unfold file?
  cases s.program with
  | none => simp
  | some program => cases hf : program.file? name <;> simp [hf]

theorem file?_eq_some_iff :
    s.file? name = some (file, oracle)
      ↔ ∃ program, s.program = some program ∧ program.file? name = some file
          ∧ program.oracle = oracle := by
  unfold file?
  cases s.program with
  | none => simp
  | some program => cases hf : program.file? name <;> simp [hf]

/-- Without the file nothing is added. -/
theorem diagnostics_withTests_of_none (h : s.file? name = none) :
    s.withTests.diagnostics name = s.diagnostics name := by
  show s.testedDiagnostics name = _
  rw [testedDiagnostics, h]

/-- **Where nothing fails the session reports as it is.** -/
theorem diagnostics_withTests_of_nil (h : s.file? name = some (file, oracle))
    (hnil : failingTests file oracle = []) :
    s.withTests.diagnostics name = s.diagnostics name := by
  show s.testedDiagnostics name = _
  rw [testedDiagnostics, h]
  dsimp only
  rw [hnil]

/-- **Where something fails the diagnostics are put together and brought in order.** -/
theorem diagnostics_withTests_of_ne_nil (h : s.file? name = some (file, oracle))
    (hne : failingTests file oracle ≠ []) :
    s.withTests.diagnostics name
      = Diagnostic.sortUnique (s.diagnostics name ++ failingTests file oracle) := by
  show s.testedDiagnostics name = _
  rw [testedDiagnostics, h]
  dsimp only
  split
  · exact absurd ‹_› hne
  · rfl

/-- **What is reported where something fails** is the increasing list of what the session
reports by itself and of the failing calls. -/
theorem eq_diagnostics_withTests_iff (h : s.file? name = some (file, oracle))
    (hne : failingTests file oracle ≠ []) {ds : List Diagnostic} :
    ds = s.withTests.diagnostics name
      ↔ Diagnostic.Increasing ds
          ∧ ∀ d, d ∈ ds ↔ d ∈ s.diagnostics name ∨ IsFailingTest file oracle d := by
  rw [diagnostics_withTests_of_ne_nil h hne, Diagnostic.eq_sortUnique_iff]
  simp only [List.mem_append, mem_failingTests_iff]

/-- **The order in which a session reports does not matter** where something fails, nor do
repetitions. -/
theorem diagnostics_withTests_congr {s' : EditorSession ν}
    (h : s.file? name = some (file, oracle)) (h' : s'.file? name = some (file, oracle))
    (hne : failingTests file oracle ≠ [])
    (hd : ∀ d, d ∈ s'.diagnostics name ↔ d ∈ s.diagnostics name) :
    s'.withTests.diagnostics name = s.withTests.diagnostics name := by
  refine (eq_diagnostics_withTests_iff h hne).mpr ?_
  obtain ⟨hincreasing, hmem⟩ := (eq_diagnostics_withTests_iff h' hne).mp rfl
  exact ⟨hincreasing, fun d => (hmem d).trans (or_congr_left (hd d))⟩

variable (s name)

/-- **The cases of an answer**: nothing is added, or something fails and the answer is sorted. -/
theorem diagnostics_withTests_cases :
    s.withTests.diagnostics name = s.diagnostics name
      ∨ ∃ file oracle, s.file? name = some (file, oracle) ∧ failingTests file oracle ≠ [] := by
  cases hf : s.file? name with
  | none => exact .inl (diagnostics_withTests_of_none hf)
  | some found =>
    by_cases hnil : failingTests found.1 found.2 = []
    · exact .inl (diagnostics_withTests_of_nil hf hnil)
    · exact .inr ⟨found.1, found.2, rfl, hnil⟩

/-- **Nothing that a session reports is lost.** -/
theorem subset_diagnostics_withTests : s.diagnostics name ⊆ s.withTests.diagnostics name := by
  intro d hd
  rcases s.diagnostics_withTests_cases name with h | ⟨file, oracle, h, hne⟩
  · rw [h]
    exact hd
  · exact (((eq_diagnostics_withTests_iff h hne).mp rfl).2 d).mpr (.inl hd)

/-- **Wrapping twice is wrapping once.** -/
theorem diagnostics_withTests_withTests :
    s.withTests.withTests.diagnostics name = s.withTests.diagnostics name := by
  rcases s.withTests.diagnostics_withTests_cases name with h | ⟨file, oracle, h, hne⟩
  · exact h
  · rw [file?_withTests] at h
    have hmem := ((eq_diagnostics_withTests_iff h hne).mp rfl).2
    refine (eq_diagnostics_withTests_iff h hne).mpr ?_
    obtain ⟨hincreasing, htwice⟩ := (eq_diagnostics_withTests_iff (s := s.withTests) h hne).mp rfl
    exact ⟨hincreasing, fun d => by rw [htwice d, hmem d, or_assoc, or_self]⟩

end EditorSession

/-- **What a session with tests reports.** Where the file is not there, and where no call of it
fails, it is what the session reports by itself. Otherwise it is the one increasing list of
this and of the diagnostics on failing calls, whatever the order and the repetitions in which
the session reports. Nothing is lost, and a session that is wrapped twice reports no more than
one that is wrapped once. -/
theorem EditorSession.reports_failingTests (s : EditorSession ν) (name : String) :
    ((s.program = none ∨ ∃ program, s.program = some program ∧ program.file? name = none) →
        s.withTests.diagnostics name = s.diagnostics name)
      ∧ (∀ program file, s.program = some program → program.file? name = some file →
          ((¬∃ d, IsFailingTest file program.oracle d) →
              s.withTests.diagnostics name = s.diagnostics name)
            ∧ ((∃ d, IsFailingTest file program.oracle d) →
              (∀ ds, ds = s.withTests.diagnostics name
                ↔ Diagnostic.Increasing ds ∧ ∀ d, d ∈ ds
                    ↔ d ∈ s.diagnostics name ∨ IsFailingTest file program.oracle d)
              ∧ ∀ s' : EditorSession ν, s'.program = s.program →
                  (∀ d, d ∈ s'.diagnostics name ↔ d ∈ s.diagnostics name) →
                  s'.withTests.diagnostics name = s.withTests.diagnostics name))
      ∧ s.diagnostics name ⊆ s.withTests.diagnostics name
      ∧ s.withTests.withTests.diagnostics name = s.withTests.diagnostics name := by
  refine ⟨fun h => diagnostics_withTests_of_none (file?_eq_none_iff.mpr h), ?_,
    s.subset_diagnostics_withTests name, s.diagnostics_withTests_withTests name⟩
  intro program file hprogram hfile
  have hf : s.file? name = some (file, program.oracle) :=
    file?_eq_some_iff.mpr ⟨program, hprogram, hfile, rfl⟩
  constructor
  · intro hnone
    refine diagnostics_withTests_of_nil hf (List.eq_nil_iff_forall_not_mem.mpr fun d hd => ?_)
    exact hnone ⟨d, mem_failingTests_iff.mp hd⟩
  · rintro ⟨d, hd⟩
    have hne := List.ne_nil_of_mem (mem_failingTests_iff.mpr hd)
    refine ⟨fun ds => eq_diagnostics_withTests_iff hf hne, fun s' hs' hd' => ?_⟩
    have hf' : s'.file? name = some (file, program.oracle) :=
      file?_eq_some_iff.mpr ⟨program, hs'.trans hprogram, hfile, rfl⟩
    exact diagnostics_withTests_congr hf hf' hne hd'

end TypeTest
