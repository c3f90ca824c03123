import TypeTest.Discovery.Assertion

/-!
# Where tests are written

A test is a call of a function with one of two names, with a description and a
callback for arguments; a group is the same with two other names, and its callback
has to be a function. What a call with such a name looks like otherwise does not
matter, and further arguments are ignored.
-/

namespace TypeTest

variable {ν : Type}

/-- The names of the functions that introduce a group. -/
def groupNames : List String := ["describeType", "describe"]

/-- The names of the functions that introduce a test. -/
def testNames : List String := ["testType", "test"]

/-- **A place where a group or a test is introduced.** -/
inductive Site (ν : Type) where
  | group (description callback : ν)
  | test (description callback : ν)
  deriving DecidableEq, Repr

namespace SourceFile

/-- **What a node introduces**, if it introduces anything. -/
def site? (file : SourceFile ν) (n : ν) : Option (Site ν) :=
  match file.shape n with
  | .call callee _ (description :: callback :: _) =>
    match file.shape callee with
    | .identifier name =>
      if groupNames.contains name && (file.shape callback).isFunctionLike then
        some (.group description callback)
      else if testNames.contains name then some (.test description callback)
      else none
    | _ => none
  | _ => none

/-- The text of a description: a string, or the name of whatever holds it. -/
def describe (file : SourceFile ν) (n : ν) : String :=
  match file.shape n with
  | .stringLiteral value => value
  | .identifier name => name
  | _ => ""

/-- **The assertions of a test**, in source order: all calls in the body of a
function, and only the calls that are elements of an array or values of an
object. -/
def assertions (file : SourceFile ν) (callback : ν) : List ν :=
  match file.shape callback with
  | .functionLike (some body) => file.callsWithin body
  | .arrayLiteral elements => elements.filter fun e => (file.shape e).isCall
  | .objectLiteral properties =>
    properties.filterMap fun p =>
      match file.shape p with
      | .propertyAssignment _ initializer =>
        if (file.shape initializer).isCall then some initializer else none
      | _ => none
  | _ => []

/-- The case of a test. -/
def testCase (file : SourceFile ν) (oracle : TypeOracle ν) (description callback : ν) :
    TestCase :=
  { description := file.describe description,
    verdict := file.firstFailure oracle (file.assertions callback) }

/-- The body of the callback of a group lies beneath the call. -/
theorem beneath_of_site? {file : SourceFile ν} {n description callback b : ν}
    (h : file.site? n = some (.group description callback))
    (hb : (file.shape callback).body? = some b) :
    Beneath file.children file.shape b n := by
  unfold site? at h
  split at h
  · rename_i hn
    split at h
    · split at h
      · simp only [Option.some.injEq, Site.group.injEq] at h
        obtain ⟨_, rfl⟩ := h
        exact .body hn (by simp) hb
      · split at h <;> simp at h
    · simp at h
  · simp at h

end SourceFile

end TypeTest
