import TypeTest.Pattern.Anchor
import TypeTest.Pattern.CharSet

/-!
# Regular expressions

The meaning of a pattern is a regular expression. Only whether it occurs in a
text is ever asked, so there are no captures, and it makes no difference whether
a repetition prefers to be long or short.
-/

namespace TypeTest

/-- **A regular expression.** -/
inductive PatternExpr where
  /-- The empty text. -/
  | empty
  /-- One character of a set. -/
  | one (s : CharSet)
  /-- The empty text, where the anchor holds. -/
  | here (a : Anchor)
  /-- One after the other. -/
  | seq (e f : PatternExpr)
  /-- Either. -/
  | alt (e f : PatternExpr)
  /-- At least so often, and at most so often if there is a bound. -/
  | rep (e : PatternExpr) (least : Nat) (most : Option Nat)
  deriving DecidableEq, Repr

end TypeTest
