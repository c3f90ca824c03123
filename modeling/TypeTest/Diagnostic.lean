import TypeTest.Text.Position

/-!
# Diagnostics

A diagnostic is a message of an editor session about a range of a file. The
standard order compares the fields in the order in which they are declared, strings
by their characters; a list in that order without repetitions is what a session
shows.
-/

namespace TypeTest

/-- **How serious a diagnostic is**, the most serious first. -/
inductive Severity where
  | error
  | warning
  | suggestion
  | message
  deriving DecidableEq, Repr, Inhabited

namespace Severity

/-- The name of a severity. -/
def display : Severity → String
  | .error => "error"
  | .warning => "warning"
  | .suggestion => "suggestion"
  | .message => "message"

/-- The severity with a name. -/
def ofName? : String → Option Severity
  | "error" => some .error
  | "warning" => some .warning
  | "suggestion" => some .suggestion
  | "message" => some .message
  | _ => none

/-- The place of a severity in their order. -/
def rank : Severity → Nat
  | .error => 0
  | .warning => 1
  | .suggestion => 2
  | .message => 3

theorem rank_injective {s t : Severity} (h : s.rank = t.rank) : s = t := by
  cases s <;> cases t <;> simp_all [rank]

end Severity

/-- **A diagnostic** of a file. -/
structure Diagnostic where
  file : String
  start : Nat
  length : Nat
  code : String
  message : String
  severity : Severity
  deriving DecidableEq, Repr

namespace Diagnostic

/-- A diagnostic on one line. -/
def display (d : Diagnostic) : String :=
  d.file ++ "(" ++ toString d.start ++ "," ++ toString d.length ++ "): " ++ d.severity.display ++
    " " ++ d.code ++ ": " ++ d.message

/-- The standard order: file, start, length, code, message, severity. -/
def compare (a b : Diagnostic) : Ordering :=
  (Ord.compare a.file b.file).then <|
  (Ord.compare a.start b.start).then <|
  (Ord.compare a.length b.length).then <|
  (Ord.compare a.code b.code).then <|
  (Ord.compare a.message b.message).then <|
  Ord.compare a.severity.rank b.severity.rank

/-- Whether `a` may stand before `b`. -/
def le (a b : Diagnostic) : Bool := (compare a b).isLE

/-- A list without the members that repeat the one before them. -/
def dropRepeats : List Diagnostic → List Diagnostic
  | [] => []
  | [d] => [d]
  | d :: e :: ds => if d = e then dropRepeats (e :: ds) else d :: dropRepeats (e :: ds)

/-- **Diagnostics in the standard order**, each once. -/
def sortUnique (ds : List Diagnostic) : List Diagnostic := dropRepeats (ds.mergeSort le)

theorem mem_dropRepeats (d : Diagnostic) (ds : List Diagnostic) :
    d ∈ dropRepeats ds ↔ d ∈ ds := by
  fun_induction dropRepeats ds with
  | case1 => rfl
  | case2 => rfl
  | case3 e ds ih => simp_all
  | case4 e f ds h ih => simp_all

/-- Sorting neither loses nor adds a diagnostic. -/
@[simp] theorem mem_sortUnique (d : Diagnostic) (ds : List Diagnostic) :
    d ∈ sortUnique ds ↔ d ∈ ds := by
  rw [sortUnique, mem_dropRepeats, (List.mergeSort_perm ds le).mem_iff]

end Diagnostic

end TypeTest
