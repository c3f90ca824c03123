import TypeTest.Json.Reader

/-!
# Project files

A project may say in a file which of its files are to be tested: in a record
`testing` with the lists `include` and `exclude` of patterns. Whatever is left out
is not said, and `null` says nothing either.
-/

namespace TypeTest

/-- **What a project says about its tests.** -/
structure ProjectSettings where
  /-- The patterns of the files to test. -/
  included : Option (List String) := none
  /-- The patterns of the files to leave out. -/
  excluded : Option (List String) := none
  deriving DecidableEq, Repr

namespace ProjectSettings

/-- The name of the project file. -/
def fileName : String := "rtt.config.json"

/-- The fields of a project file. -/
def fields : List String := ["testing"]

/-- The fields of the record in it. -/
def testingFields : List String := ["include", "exclude"]

/-- A list of patterns, or none where the value is missing or `null`. -/
def patterns? : Option JsonValue → Option (Option (List String))
  | none => some none
  | some .null => some none
  | some v => v.texts?.map some

/-- The record `testing`. -/
def ofTesting? (v : JsonValue) : Option ProjectSettings := do
  let given ← v.record? testingFields
  let included ← patterns? (given.lookup "include")
  let excluded ← patterns? (given.lookup "exclude")
  some ⟨included, excluded⟩

/-- The settings that a value holds. -/
def ofValue? (v : JsonValue) : Option ProjectSettings := do
  let given ← v.record? fields
  match given.lookup "testing" with
  | none => some {}
  | some testing => ofTesting? testing

/-- **The settings that the text of a project file holds**, if it is one. -/
def ofText? (text : String) : Option ProjectSettings :=
  (JsonValue.ofText? text.toList).bind ofValue?

end ProjectSettings

end TypeTest
