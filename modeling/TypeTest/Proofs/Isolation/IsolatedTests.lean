import TypeTest.Proofs.EditorAgreement
import TypeTest.Proofs.Isolation.AlikeFiles
import TypeTest.Proofs.Isolation.CapturedNames

/-!
# Tests are isolated but for captured names

What does a test come to if another statement, a further test for instance, is put before
it? Its nodes are the same up to their places in the text, so the search takes it for the same
test with the same assertions. Each of these still resolves to the same signature, so the test
fails by the same assertion or not at all, and the failure has the same message and the same
expected type.

The **received type** is the one thing that depends on variables. It is traced from the object
of the failing assertion through the variables of the whole file, so a test may come to tell of
a variable that another test declares: two tests that call their variable `x` are enough
(`received_captured`). Tests are isolated from each other exactly as far as no name that is looked
up for the type is captured (`Insertion.exists_caseAt_of_place_le`).
-/

namespace TypeTest

variable {ν μ : Type}

/-! ## The case of a test -/

namespace SourceFile

/-- **The case of a node that is a test**, as the search has it. -/
def caseOf? (file : SourceFile ν) (oracle : TypeOracle ν) (n : ν) : Option TestCase :=
  match file.site? n with
  | some (.test description callback) => some (file.testCase oracle description callback)
  | _ => none

/-- **The assertion by which a test fails**: the first of its assertions that does. -/
def failingOf? (file : SourceFile ν) (oracle : TypeOracle ν) (n : ν) : Option ν :=
  match file.site? n with
  | some (.test _ callback) =>
    (file.assertions callback).find? fun call => (oracle.failure? call).isSome
  | _ => none

/-- The verdict on several calls is that on the first that fails. -/
theorem detail?_firstFailure (file : SourceFile ν) (oracle : TypeOracle ν) (calls : List ν) :
    (file.firstFailure oracle calls).detail?
      = (calls.find? fun call => (oracle.failure? call).isSome).bind
          fun call => (file.verdict oracle call).detail? := by
  have hp : (fun v : Verdict => v.status.isFailed) ∘ file.verdict oracle
      = fun call => (oracle.failure? call).isSome :=
    funext fun call => file.isFailed_verdict oracle call
  rw [firstFailure, List.find?_map, hp]
  cases calls.find? fun call => (oracle.failure? call).isSome <;> rfl

theorem detail?_of_caseOf? {file : SourceFile ν} {oracle : TypeOracle ν} {n : ν} {c : TestCase}
    (h : file.caseOf? oracle n = some c) :
    c.verdict.detail?
      = (file.failingOf? oracle n).bind fun call => (file.verdict oracle call).detail? := by
  unfold caseOf? at h
  unfold failingOf?
  split at h
  · cases h
    exact file.detail?_firstFailure oracle _
  · cases h

end SourceFile

/-! ## Verdicts in two programs -/

/-- What a failure says apart from the received type and the place in the text. -/
def FailureDetail.expectation (d : FailureDetail) : Option String × Option String × List String :=
  (d.expected, d.simplifiedExpected, d.message)

/-- A verdict with the detail of a failure is that it failed. -/
theorem Verdict.status_eq (v : Verdict) : v.status = .ofFailed v.detail?.isSome := by
  cases v <;> rfl

/-- A verdict is a failure by what the sentinel says. -/
theorem SourceFile.detail?_verdict (file : SourceFile ν) (oracle : TypeOracle ν) (call : ν) :
    (file.verdict oracle call).detail?
      = (oracle.failure? call).map (file.failureDetail oracle call) := by
  unfold verdict
  cases oracle.failure? call <;> rfl

namespace ScriptProgram

/-- Calls that are alike have the same type arguments. -/
theorem typeArgument?_eq {call call' : NodeRef} (h : call.Alike call') (index : Nat) :
    typeArgument? call' index = typeArgument? call index := by
  have hf := h.2.form
  unfold typeArgument?
  generalize call.node.form = form at hf
  generalize call'.node.form = form' at hf
  cases hf with
  | call _ ht _ => exact (bind_typeText?_eq (Node.near_of_forall₂_alike ht) index).symm
  | _ => rfl

namespace Insertion

variable {p p' : ScriptProgram} (e : Insertion p p') {n n' call call' : NodeRef}

include e

theorem failure?_eq (h : call.Alike call') : p'.oracle.failure? call' = p.oracle.failure? call := by
  show ((p'.signature? call').map CallSignature.returnType).bind Sentinel.decode
    = ((p.signature? call).map CallSignature.returnType).bind Sentinel.decode
  rw [e.signature?_eq (Node.near_of_alike h.2)]

/-- **A test fails by the same assertion.** -/
theorem rel_failingOf? (h : n.Alike n') :
    Option.Rel NodeRef.Alike ((e.file.toSource e.number).failingOf? p.oracle n)
      ((e.file'.toSource e.number).failingOf? p'.oracle n') := by
  have hfiles := e.file.alike_toSource e.file' e.number
  have hs := hfiles.rel_site? h
  unfold SourceFile.failingOf?
  generalize (e.file.toSource e.number).site? n = site at hs
  generalize (e.file'.toSource e.number).site? n' = site' at hs
  cases hs with
  | none => exact .none
  | some hs =>
    cases hs with
    | group _ _ => exact .none
    | test _ hcallback =>
      exact rel_find? (hfiles.forall₂_assertions hcallback)
        fun _ _ hcall => congrArg Option.isSome (e.failure?_eq hcall).symm

/-- **A failure expects what it expected**, with the same message. -/
theorem expectation_eq (h : call.Alike call') (payload : Sentinel.Payload) :
    ((e.file'.toSource e.number).failureDetail p'.oracle call' payload).expectation
      = ((e.file.toSource e.number).failureDetail p.oracle call payload).expectation :=
  congrArg (·, payload.simplifiedExpected, _) (typeArgument?_eq h 0)

/-- **A failure tells of the type that it told of** if no captured name is looked up for it. -/
theorem received?_eq (h : call.Alike call')
    (hc : ∀ object, (e.file.toSource e.number).receiver? call = some object →
      ∀ name, (e.number, name) ∈ p.lookups maxHops object → ¬ e.Captures name) :
    (e.file'.toSource e.number).received? p'.oracle call'
      = (e.file.toSource e.number).received? p.oracle call := by
  have ho := (e.file.alike_toSource e.file' e.number).rel_receiver? h
  unfold SourceFile.received?
  generalize (e.file.toSource e.number).receiver? call = o at ho hc
  generalize (e.file'.toSource e.number).receiver? call' = o' at ho
  cases ho with
  | none => rfl
  | @some object object' hobject =>
    obtain ⟨i, n⟩ := object
    obtain ⟨_, n'⟩ := object'
    obtain ⟨rfl, hn⟩ := hobject
    have htype := e.typeWithin_eq maxHops (Node.near_of_alike hn) (hc _ rfl)
    show (p'.typeWithin maxHops ⟨i, n'⟩).bind _ = (p.typeWithin maxHops ⟨i, n⟩).bind _
    rw [htype]
    rfl

/-- **A test stays a test with the same description.** -/
theorem exists_caseOf? (h : n.Alike n') {c : TestCase}
    (hc : (e.file.toSource e.number).caseOf? p.oracle n = some c) :
    ∃ c', (e.file'.toSource e.number).caseOf? p'.oracle n' = some c'
      ∧ c'.description = c.description := by
  have hfiles := e.file.alike_toSource e.file' e.number
  have hs := hfiles.rel_site? h
  unfold SourceFile.caseOf? at hc ⊢
  generalize (e.file.toSource e.number).site? n = site at hs hc
  generalize (e.file'.toSource e.number).site? n' = site' at hs
  cases hs with
  | none => cases hc
  | some hs =>
    cases hs with
    | group _ _ => cases hc
    | test hdescription _ =>
      cases hc
      exact ⟨_, rfl, (hfiles.describe_eq hdescription).symm⟩

/-- **A test has the verdict that it had**, up to what captured names do to the received
type. -/
theorem detail?_eq (h : n.Alike n') {c c' : TestCase}
    (hc : (e.file.toSource e.number).caseOf? p.oracle n = some c)
    (hc' : (e.file'.toSource e.number).caseOf? p'.oracle n' = some c') :
    c'.verdict.detail?.map FailureDetail.expectation
        = c.verdict.detail?.map FailureDetail.expectation
      ∧ ((∀ object, ((e.file.toSource e.number).failingOf? p.oracle n).bind
              (e.file.toSource e.number).receiver? = some object →
            ∀ name, (e.number, name) ∈ p.lookups maxHops object → ¬ e.Captures name) →
          c'.verdict.detail?.map FailureDetail.received
            = c.verdict.detail?.map FailureDetail.received) := by
  have hf := e.rel_failingOf? h
  rw [SourceFile.detail?_of_caseOf? hc, SourceFile.detail?_of_caseOf? hc']
  generalize (e.file.toSource e.number).failingOf? p.oracle n = o at hf
  generalize (e.file'.toSource e.number).failingOf? p'.oracle n' = o' at hf
  cases hf with
  | none => exact ⟨rfl, fun _ => rfl⟩
  | some hcall =>
    simp only [Option.bind_some, SourceFile.detail?_verdict, Option.map_map, e.failure?_eq hcall]
    refine ⟨Option.map_congr fun payload _ => e.expectation_eq hcall payload, fun hnames => ?_⟩
    refine Option.map_congr fun payload _ => ?_
    exact congrArg (Option.getD · undisplayableReceived) (e.received?_eq hcall hnames)

end Insertion

/-! ## Tests at paths -/

section Paths

variable (p : ScriptProgram) (i : Nat) (path : List Nat)

/-- **The case of the test at a path** in a script. -/
def caseAt? : Option TestCase := do
  let file ← p.files[i]?
  let n ← file.root.at? path
  (file.toSource i).caseOf? p.oracle ⟨i, n⟩

/-- **What the test at a path makes its failing assertion about**: the object that the
assertion is called on. -/
def objectAt? : Option NodeRef := do
  let file ← p.files[i]?
  let n ← file.root.at? path
  ((file.toSource i).failingOf? p.oracle ⟨i, n⟩).bind (file.toSource i).receiver?

/-- **The names that are looked up for the received type** of the test at a path. -/
def lookupsAt : List (Nat × String) := (p.objectAt? i path).elim [] (p.lookups maxHops)

variable {p i} {file : ScriptFile} (hf : p.files[i]? = some file)

include hf

theorem caseAt?_eq : p.caseAt? i path
    = (file.root.at? path).bind fun n => (file.toSource i).caseOf? p.oracle ⟨i, n⟩ := by
  rw [caseAt?, hf]
  rfl

theorem objectAt?_eq : p.objectAt? i path
    = (file.root.at? path).bind fun n =>
        ((file.toSource i).failingOf? p.oracle ⟨i, n⟩).bind (file.toSource i).receiver? := by
  rw [objectAt?, hf]
  rfl

end Paths

/-- **Tests are isolated from statements before them but for captured names.** Insert any
statement into any block of a script: a test that stands behind it in the block, or in
something that does, still has its description and its status, and a failure still has the
expected type and the message that it had. It tells of the same received type as well,
unless a name that was looked up for that type in the script is captured by the statement,
which declares a variable of that name before all others in the script. -/
theorem Insertion.exists_caseAt_of_place_le {p p' : ScriptProgram} (e : Insertion p p') {j : Nat}
    {rest : List Nat} {c : TestCase} (hj : e.place ≤ j)
    (hc : p.caseAt? e.number (e.block ++ j :: rest) = some c) :
    ∃ c', p'.caseAt? e.number (e.block ++ (j + 1) :: rest) = some c'
      ∧ c'.description = c.description ∧ c'.status = c.status
      ∧ c'.verdict.detail?.map FailureDetail.expectation
          = c.verdict.detail?.map FailureDetail.expectation
      ∧ ((∀ name, (e.number, name) ∈ p.lookupsAt e.number (e.block ++ j :: rest) →
            ¬ e.Captures name) →
          c'.verdict.detail?.map FailureDetail.received
            = c.verdict.detail?.map FailureDetail.received) := by
  rw [caseAt?_eq _ e.getElem?_number] at hc
  obtain ⟨t, ht, hc⟩ := Option.bind_eq_some_iff.mp hc
  obtain ⟨t', ht', htt⟩ := e.inserted.exists_at? hj ht
  have h : NodeRef.Alike ⟨e.number, t⟩ ⟨e.number, t'⟩ := ⟨rfl, htt⟩
  obtain ⟨c', hc', hdescription⟩ := e.exists_caseOf? h hc
  obtain ⟨hexpectation, hreceived⟩ := e.detail?_eq h hc hc'
  refine ⟨c', ?_, hdescription, ?_, hexpectation, fun hnames => hreceived fun object hobject => ?_⟩
  · rw [caseAt?_eq _ e.getElem?_number', ht', Option.bind_some, hc']
  · have hsome := congrArg Option.isSome hexpectation
    rw [Option.isSome_map, Option.isSome_map] at hsome
    rw [TestCase.status, TestCase.status, Verdict.status_eq, Verdict.status_eq, hsome]
  · rw [lookupsAt, objectAt?_eq _ e.getElem?_number, ht, Option.bind_some, hobject] at hnames
    exact hnames

end ScriptProgram

/-! ## Two insertions

The test that stands alone asserts something about its variable `x`, of a type with the
argument `string`. A test that declares an `x` of its own is put before it, or one that
declares a `y`. -/

/-- A function to make objects of a type with an argument, and one that always fails. -/
def libraryScript : ScriptFile :=
  (ScriptFile.parse "lib.d.ts"
    "declare function wrap<T>(): W<T>; declare function check(): RTT_FAIL<'m'>;").toOption.get
    (by decide +kernel)

/-- A test that fails, in a group. -/
def aloneScript : ScriptFile :=
  (ScriptFile.parse "a.test.ts" ("describe('g', () => \x7b " ++
    "test('t', () => \x7b const x = wrap<string>(); x.check(); \x7d); \x7d);")).toOption.get
    (by decide +kernel)

/-- The same behind a test with a variable of the same name. -/
def capturedScript : ScriptFile :=
  (ScriptFile.parse "a.test.ts" ("describe('g', () => \x7b " ++
    "test('u', () => \x7b const x = wrap<number>(); \x7d); " ++
    "test('t', () => \x7b const x = wrap<string>(); x.check(); \x7d); \x7d);")).toOption.get
    (by decide +kernel)

/-- The same behind a test with a variable of another name. -/
def sparedScript : ScriptFile :=
  (ScriptFile.parse "a.test.ts" ("describe('g', () => \x7b " ++
    "test('u', () => \x7b const y = wrap<number>(); \x7d); " ++
    "test('t', () => \x7b const x = wrap<string>(); x.check(); \x7d); \x7d);")).toOption.get
    (by decide +kernel)

namespace ScriptProgram

/-- The test by itself. -/
def alone : ScriptProgram := .ofFiles [libraryScript, aloneScript]

/-- The test behind one with a variable of the same name. -/
def captured : ScriptProgram := .ofFiles [libraryScript, capturedScript]

/-- The test behind one with a variable of another name. -/
def spared : ScriptProgram := .ofFiles [libraryScript, sparedScript]

/-- A test that declares an `x` is put before the other. -/
def capturing : Insertion alone captured where
  others := [libraryScript]
  more := []
  file := aloneScript
  file' := capturedScript
  block := [0, 0, 2, 0]
  place := 0
  files := rfl
  files' := rfl
  inserted := by decide +kernel

/-- A test that declares a `y` is put before the other. -/
def sparing : Insertion alone spared where
  others := [libraryScript]
  more := []
  file := aloneScript
  file' := sparedScript
  block := [0, 0, 2, 0]
  place := 0
  files := rfl
  files' := rfl
  inserted := by decide +kernel

/-- The test behind the `y` tells of the type that it told of. -/
theorem received_spared :
    ∃ c', spared.caseAt? 1 [0, 0, 2, 0, 1, 0] = some c'
      ∧ c'.verdict.detail?.map FailureDetail.received = some "string" := by
  have h : (alone.caseAt? 1 [0, 0, 2, 0, 0, 0]).bind
        (·.verdict.detail?.map FailureDetail.received) = some "string"
      ∧ ∀ entry ∈ alone.lookupsAt 1 [0, 0, 2, 0, 0, 0], ¬ sparing.Captures entry.2 := by
    simp only [caseAt?, lookupsAt, objectAt?, SourceFile.caseOf?, SourceFile.failingOf?,
      SourceFile.testCase, ScriptFile.assertions_toSource]
    decide +kernel
  obtain ⟨c, hc, hreceived⟩ := Option.bind_eq_some_iff.mp h.1
  obtain ⟨c', hc', _, _, _, hsame⟩ :=
    Insertion.exists_caseAt_of_place_le sparing (j := 0) (Nat.le_refl 0) hc
  exact ⟨c', hc', (hsame fun name hn => h.2 _ hn).trans hreceived⟩

/-- **The test behind the `x` tells of the type of the other test**: put before it in the
same group, a test that shares nothing with it but the name of a variable changes its received
type. -/
theorem received_captured :
    (∃ c, alone.caseAt? capturing.number (capturing.block ++ [0, 0]) = some c
        ∧ c.verdict.detail?.map FailureDetail.received = some "string")
      ∧ (captured.caseAt? capturing.number (capturing.block ++ [0, 0])).isSome
      ∧ ∃ c', captured.caseAt? capturing.number (capturing.block ++ [1, 0]) = some c'
        ∧ c'.verdict.detail?.map FailureDetail.received = some "number" := by
  rw [← Option.bind_eq_some_iff, ← Option.bind_eq_some_iff]
  simp only [caseAt?, SourceFile.caseOf?, SourceFile.testCase, ScriptFile.assertions_toSource]
  decide +kernel

end ScriptProgram

end TypeTest
