import TypeTest.Text.Lines

/-!
# Excerpts

A report shows a failing assertion with the source lines around it.
-/

namespace TypeTest

/-- How many lines an excerpt shows before and after the line it is about. -/
def excerptRadius : Nat := 3

/-- **Consecutive lines of a text.** -/
structure Excerpt where
  /-- The number of the first line shown, from zero. -/
  firstLine : Nat
  lines : List String
  deriving DecidableEq, Repr, Inhabited

/-- **The excerpt around a line**: the lines of the text that are at most
`excerptRadius` away from it. -/
def Excerpt.around (text : String) (line : Nat) : Excerpt :=
  let first := line - excerptRadius
  { firstLine := first,
    lines := (((TypeTest.lines text.toList).drop first).take
      (line + excerptRadius + 1 - first)).map String.ofList }

end TypeTest
