import TypeTest.Pattern.Reader
import TypeTest.Pattern.Search
import TypeTest.Pattern.Size

/-!
# File patterns

A pattern selects file names: those in which its expression occurs. It keeps the
text that it was written as, which is how it is shown. A text that nests too deep or
takes too much room is no pattern.
-/

namespace TypeTest

/-- **A file pattern.** -/
structure Pattern where
  /-- The pattern as it was written. -/
  text : String
  /-- The expression that it writes. -/
  expr : PatternExpr
  deriving DecidableEq, Repr

namespace Pattern

/-- Whether a pattern as it is written keeps both limits. -/
def isWithinLimits (t : PatternTree) : Bool :=
  t.height ≤ PatternTree.heightLimit && t.plan.isWithinLimit

/-- **The pattern that a text writes**, if it writes one within the limits. -/
def ofText? (text : String) : Option Pattern :=
  ((PatternTree.read? text.toList).filter isWithinLimits).map fun t => ⟨text, t.expr⟩

/-- **Whether a name matches.** -/
def accepts (p : Pattern) (name : String) : Bool := p.expr.occursIn name

end Pattern

end TypeTest
