import TypeTest.Pattern.Tree
import TypeTest.Total

/-!
# Plans of patterns

Before a pattern is laid out as an automaton it is simplified: neighbouring texts
become one, a choice between single characters becomes a class, what all branches of
a choice begin with is written once, and a repetition of what is always empty is
taken at most once. A **plan** is a pattern in that form. It accepts what the pattern
accepts; its use is that the size of the automaton follows from it.
-/

namespace TypeTest

/-- **A simplified pattern.** -/
inductive Plan where
  /-- The empty text. -/
  | empty
  /-- A text of at least one character. -/
  | text (cs : List Char)
  /-- One character of a class that does not have just one. -/
  | one (s : CharRanges)
  /-- An anchor. -/
  | here (a : Anchor)
  /-- A group that captures. -/
  | capture (e : Plan)
  /-- A repetition, which may prefer to be short. -/
  | rep (e : Plan) (least : Nat) (most : Option Nat) (short : Bool)
  /-- At least two items, none of them empty or a sequence, and no two texts together. -/
  | seq (es : List Plan)
  /-- At least two branches, none of them a choice. -/
  | alt (es : List Plan)

namespace Plan

/-! ## Equality -/

mutual

/-- Whether two plans are equal and hold no group that captures: two such groups are
never the same one. -/
def agrees : Plan → Plan → Bool
  | .empty, .empty => true
  | .text cs, .text ds => cs == ds
  | .one s, .one t => s == t
  | .here a, .here b => a == b
  | .rep e least most short, .rep f least' most' short' =>
    e.agrees f && least == least' && most == most' && short == short'
  | .seq es, .seq fs => agreesAll es fs
  | .alt es, .alt fs => agreesAll es fs
  | _, _ => false

/-- Whether the plans of two lists agree one by one. -/
def agreesAll : List Plan → List Plan → Bool
  | [], [] => true
  | e :: es, f :: fs => e.agrees f && agreesAll es fs
  | _, _ => false

end

/-! ## Lengths and ends -/

mutual

/-- The least number of bytes that a plan accepts, if it accepts any text as far as
its classes show. -/
def leastBytes? : Plan → Option Nat
  | .empty => some 0
  | .text cs => some (total (cs.map Char.utf8Size))
  | .one [] => none
  | .one (r :: _) => some (Char.ofNat r.1).utf8Size
  | .here _ => some 0
  | .capture e => e.leastBytes?
  | .rep e least _ _ => e.leastBytes?.map (· * least)
  | .seq es => leastBytesAll? es
  | .alt es => leastBytesAny? es

/-- The least number of bytes of a sequence. -/
def leastBytesAll? : List Plan → Option Nat
  | [] => some 0
  | e :: es =>
    match e.leastBytes?, leastBytesAll? es with
    | some m, some n => some (m + n)
    | _, _ => none

/-- The least number of bytes of a choice, all of whose branches have one. -/
def leastBytesAny? : List Plan → Option Nat
  | [] => none
  | e :: es =>
    match e.leastBytes?, es, leastBytesAny? es with
    | some m, [], _ => some m
    | some m, _ :: _, some n => some (min m n)
    | _, _, _ => none

end

/-- Whether a plan accepts no empty text. -/
def isNonempty (e : Plan) : Bool := e.leastBytes?.any (0 < ·)

mutual

/-- Whether a plan accepts the empty text only, for want of anything else in it. -/
def isEmptyOnly : Plan → Bool
  | .empty => true
  | .text _ => false
  | .one _ => false
  | .here _ => true
  | .capture e => e.isEmptyOnly
  | .rep e _ most _ => most.isSome && e.isEmptyOnly
  | .seq es => isEmptyOnlyAll es
  | .alt es => isEmptyOnlyAll es

/-- Whether all plans of a list accept the empty text only. -/
def isEmptyOnlyAll : List Plan → Bool
  | [] => true
  | e :: es => e.isEmptyOnly && isEmptyOnlyAll es

end

mutual

/-- Whether a plan is tied to an end of the text: whether it holds the anchor `a`
before anything that accepts a character. The items of a sequence are given in the
order in which they are met, by `backward` from the last. -/
def isTied (a : Anchor) (backward : Bool) : Plan → Bool
  | .empty => false
  | .text _ => false
  | .one _ => false
  | .here b => a == b
  | .capture e => e.isTied a backward
  | .rep e least _ _ => decide (0 < least) && e.isTied a backward
  | .seq es => if backward then isTiedLast a es else isTiedFirst a es
  | .alt es => isTiedEach a backward es

/-- Whether a sequence is tied to the start. -/
def isTiedFirst (a : Anchor) : List Plan → Bool
  | [] => false
  | e :: es => e.isTied a false || (e.isEmptyOnly && isTiedFirst a es)

/-- Whether a sequence is tied to the end. -/
def isTiedLast (a : Anchor) : List Plan → Bool
  | [] => false
  | e :: es => isTiedLast a es || (isEmptyOnlyAll es && e.isTied a true)

/-- Whether every branch is tied. -/
def isTiedEach (a : Anchor) (backward : Bool) : List Plan → Bool
  | [] => true
  | e :: es => e.isTied a backward && isTiedEach a backward es

end

/-! ## Simplification -/

/-- One character of a class; a class of just one is its text. -/
def ofClass (s : CharRanges) : Plan :=
  match s.sole? with
  | some c => .text [c]
  | none => .one s

/-- The items of a plan as a sequence. -/
def items : Plan → List Plan
  | .empty => []
  | .seq es => es
  | e => [e]

/-- The sequence of some items. -/
def ofItems : List Plan → Plan
  | [] => .empty
  | [e] => e
  | es => .seq es

/-- The items of two sequences in one; two texts that meet become one. -/
def glue : List Plan → List Plan → List Plan
  | [], fs => fs
  | [.text cs], .text ds :: fs => .text (cs ++ ds) :: fs
  | e :: es, fs => e :: glue es fs

/-- **One plan after another.** -/
def followedBy (e f : Plan) : Plan := ofItems (glue e.items f.items)

/-- **A plan repeated.** What accepts the empty text only is taken at most once. -/
def repeated (e : Plan) (count : RepeatCount) (short : Bool) : Plan :=
  let least := if e.isEmptyOnly then min count.least 1 else count.least
  let most := if e.isEmptyOnly then some (min (count.most.getD 1) 1) else count.most
  match least, most with
  | 0, some 0 => .empty
  | 1, some 1 => e
  | _, _ => .rep e least most short

/-- The branches of a plan. -/
def branches : Plan → List Plan
  | .alt es => es
  | e => [e]

/-- The class of a plan that accepts one character: of a text only if `texts`. -/
def class? (texts : Bool) : Plan → Option CharRanges
  | .text [c] => if texts then some [(c.toNat, c.toNat)] else none
  | .one s => if texts then none else some s
  | _ => none

/-- The class of a choice between single characters, or between classes. -/
def choiceClass? (es : List Plan) : Option CharRanges :=
  ((es.mapM (class? true)).or (es.mapM (class? false))).map (·.foldr .union [])

/-- What two sequences begin with alike. -/
def common : List Plan → List Plan → List Plan
  | e :: es, f :: fs => if e.agrees f then e :: common es fs else []
  | _, _ => []

/-- The items that all branches begin with, if all are sequences. -/
def sharedStart (es : List Plan) : List Plan :=
  match es.mapM fun e => match e with | .seq fs => some fs | _ => none with
  | some (first :: rest) => rest.foldl common first
  | _ => []

/-- A choice between branches that begin with nothing in common. -/
def choose (es : List Plan) : Plan :=
  match es.flatMap branches with
  | [] => .one []
  | [e] => e
  | es =>
    match choiceClass? es with
    | some s => ofClass s
    | none => .alt es

/-- **A choice between plans.** -/
def choice (es : List Plan) : Plan :=
  let flat := es.flatMap branches
  let start := sharedStart flat
  if flat.length ≤ 1 ∨ start.isEmpty then choose flat
  else
    followedBy (ofItems start)
      (choose (flat.map fun e => ofItems (e.items.drop start.length)))

end Plan

namespace PatternTree

/-- The plans of the branches of a pattern. -/
def branchPlans : PatternTree → List Plan
  | .empty => [.empty]
  | .one s _ => [Plan.ofClass s.ranges]
  | .here a => [.here a]
  | .group captures e =>
    let inner := Plan.choice e.branchPlans
    [if captures then .capture inner else inner]
  | .rep e count short => [(Plan.choice e.branchPlans).repeated count short]
  | .seq e rest => [(Plan.choice e.branchPlans).followedBy (Plan.choice rest.branchPlans)]
  | .alt e rest => e.branchPlans ++ rest.branchPlans

/-- **The plan of a pattern.** -/
def plan (t : PatternTree) : Plan := Plan.choice t.branchPlans

end PatternTree

end TypeTest
