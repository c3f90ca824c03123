import TypeTest.Host.File
import TypeTest.Report.Result
import TypeTest.Sentinel
import TypeTest.Text.Lines

/-!
# Assertions

An assertion is a call. It fails if its return type displays with the failure
sentinel, and a call that resolves to no function passes. The detail of a failure
comes from the sentinel's message, from the type arguments of the assertion, and,
for an assertion like `assertType<T>().equals<U>()`, from the type of the object it
is called on.
-/

namespace TypeTest

variable {ν : Type}

/-- Stands for a received type that could not be found. -/
def undisplayableReceived : String :=
  "Error displaying received type, please check it in the code manually."

/-- **What the sentinel in the return type of a call says**, if there is one. -/
def TypeOracle.failure? (oracle : TypeOracle ν) (call : ν) : Option Sentinel.Payload :=
  (oracle.returnType call).bind Sentinel.decode

namespace SourceFile

/-- The object that a call is called on, if its callee is a member access. -/
def receiver? (file : SourceFile ν) (call : ν) : Option ν :=
  match file.shape call with
  | .call callee _ _ =>
    match file.shape callee with
    | .propertyAccess object _ => some object
    | _ => none
  | _ => none

/-- The first type argument of the type of the object a call is called on. -/
def received? (file : SourceFile ν) (oracle : TypeOracle ν) (call : ν) : Option String := do
  let object ← file.receiver? call
  let type ← oracle.typeAt object
  oracle.argumentOf type 0

/-- The detail of a failing call, given what its sentinel says. -/
def failureDetail (file : SourceFile ν) (oracle : TypeOracle ν) (call : ν)
    (payload : Sentinel.Payload) : FailureDetail :=
  let location := file.location call
  { received := (file.received? oracle call).getD undisplayableReceived,
    expected := oracle.typeArgument call 0,
    simplifiedExpected := payload.simplifiedExpected,
    message := (splitBreaks payload.message.toList).map String.ofList,
    location := location,
    excerpt := .around file.text location.line }

/-- **The verdict on a call.** -/
def verdict (file : SourceFile ν) (oracle : TypeOracle ν) (call : ν) : Verdict :=
  match oracle.failure? call with
  | some payload => .fail (file.failureDetail oracle call payload)
  | none => .pass

/-- The verdict on several calls is that on the first failing one. -/
def firstFailure (file : SourceFile ν) (oracle : TypeOracle ν) (calls : List ν) : Verdict :=
  ((calls.map (file.verdict oracle)).find? fun v => v.status.isFailed).getD .pass

theorem isFailed_verdict (file : SourceFile ν) (oracle : TypeOracle ν) (call : ν) :
    (file.verdict oracle call).status.isFailed = (oracle.failure? call).isSome := by
  unfold verdict
  split <;> simp_all [Verdict.status]

theorem firstFailure_cons (file : SourceFile ν) (oracle : TypeOracle ν) (call : ν)
    (calls : List ν) :
    file.firstFailure oracle (call :: calls)
      = if (file.verdict oracle call).status.isFailed then file.verdict oracle call
        else file.firstFailure oracle calls := by
  unfold firstFailure
  rw [List.map_cons, List.find?_cons]
  cases (file.verdict oracle call).status.isFailed <;> rfl

/-- **Several calls fail if one of them does.** -/
theorem status_firstFailure (file : SourceFile ν) (oracle : TypeOracle ν) (calls : List ν) :
    (file.firstFailure oracle calls).status = .failed
      ↔ ∃ call ∈ calls, (file.verdict oracle call).status = .failed := by
  induction calls with
  | nil => exact ⟨fun h => (by cases h), fun ⟨_, h, _⟩ => absurd h List.not_mem_nil⟩
  | cons call calls ih =>
    rw [firstFailure_cons]
    split
    · rename_i h
      have h := Status.isFailed_iff.mp h
      exact ⟨fun _ => ⟨call, List.mem_cons_self, h⟩, fun _ => h⟩
    · rename_i h
      rw [Status.isFailed_iff] at h
      rw [ih]
      constructor
      · rintro ⟨other, hother, hf⟩
        exact ⟨other, List.mem_cons_of_mem _ hother, hf⟩
      · rintro ⟨other, hother, hf⟩
        rcases List.mem_cons.mp hother with rfl | hother
        · exact absurd hf h
        · exact ⟨other, hother, hf⟩

end SourceFile

end TypeTest
