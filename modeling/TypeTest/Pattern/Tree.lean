import TypeTest.Pattern.Count
import TypeTest.Pattern.Expr

/-!
# Patterns as they are written

The reader of patterns keeps what an expression leaves out: groups and whether they
capture, repetitions that prefer to be short, and how deep classes are nested in
brackets. Its **height** is bounded, and from it follow both what the pattern means
(`PatternTree.expr`) and how large it is when laid out.
-/

namespace TypeTest

/-- **A pattern as it is written.** Sequences and alternatives are chains: the second
part holds what follows the first item or branch. -/
inductive PatternTree where
  /-- Nothing, or a change of flags. -/
  | empty
  /-- One character of a set that is written with so many levels of brackets. -/
  | one (s : CharSet) (depth : Nat)
  /-- An anchor. -/
  | here (a : Anchor)
  /-- A group, which may capture what it accepts. -/
  | group (captures : Bool) (e : PatternTree)
  /-- A repetition, which may prefer to be short. -/
  | rep (e : PatternTree) (count : RepeatCount) (short : Bool)
  /-- An item and those after it. -/
  | seq (e rest : PatternTree)
  /-- A branch and those after it. -/
  | alt (e rest : PatternTree)
  deriving DecidableEq, Repr

namespace PatternTree

/-- Items one after the other. -/
def ofItems : List PatternTree → PatternTree
  | [] => .empty
  | [e] => e
  | e :: es => .seq e (ofItems es)

/-- Branches; the first is given apart from the others. -/
def ofBranches (e : PatternTree) : List PatternTree → PatternTree
  | [] => e
  | f :: fs => .alt e (ofBranches f fs)

/-- **The height of a pattern**: how many groups, repetitions, brackets, sequences of
several items and choices of several branches are nested in it at most. -/
def height : PatternTree → Nat
  | .empty => 0
  | .one _ depth => depth
  | .here _ => 0
  | .group _ e => e.height + 1
  | .rep e _ _ => e.height + 1
  | .seq e rest =>
    max (e.height + 1) (match rest with
      | .seq _ _ => rest.height
      | _ => rest.height + 1)
  | .alt e rest =>
    max (e.height + 1) (match rest with
      | .alt _ _ => rest.height
      | _ => rest.height + 1)

/-- A pattern may be as high as this. -/
def heightLimit : Nat := 250

/-- **What a pattern means.** Whether a group captures and whether a repetition is
short makes no difference to where it occurs. -/
def expr : PatternTree → PatternExpr
  | .empty => .empty
  | .one s _ => .one s
  | .here a => .here a
  | .group _ e => e.expr
  | .rep e count _ => .rep e.expr count.least count.most
  | .seq e rest => .seq e.expr rest.expr
  | .alt e rest => .alt e.expr rest.expr

end PatternTree

end TypeTest
