import TypeTest.Pattern.Expr

/-!
# Looking for an expression in a text

A set of places in a text is a number: bit `i` says whether the place before the
character at index `i` belongs to it. An expression sends the places where it may
start to those where it may then end. A character of a set is a mask and a shift,
an alternative a union, and a repetition is run until nothing changes, so a
search takes time polynomial in the length of the text whatever the expression.
-/

namespace TypeTest

/-- **A set of places in a text.** -/
abbrev Places := Nat

namespace Places

/-- The places before a character with a property. -/
def before (p : Char → Bool) : List Char → Places
  | [] => 0
  | c :: r => (p c).toNat + 2 * before p r

/-- The places where an anchor holds, in a text that follows a given character. -/
def anchored (a : Anchor) (prev : Option Char) : List Char → Places
  | [] => (a.holds prev none).toNat
  | c :: r => (a.holds prev (some c)).toNat + 2 * anchored a (some c) r

/-- All places of a text with so many characters. -/
def upTo (n : Nat) : Places := Nat.pow 2 (n + 1) - 1

/-- A step taken `k` times. Once it changes nothing it never will. -/
def iterate (step : Places → Places) : Nat → Places → Places
  | 0, s => s
  | k + 1, s => let t := step s; if t = s then s else iterate step k t

/-- A step taken at most `k` times. -/
def spread (step : Places → Places) : Nat → Places → Places
  | 0, s => s
  | k + 1, s => let t := s ||| step s; if t = s then s else spread step k t

theorem testBit_before (p : Char → Bool) (cs : List Char) (i : Nat) :
    (before p cs).testBit i = cs[i]?.any p := by
  induction cs generalizing i with
  | nil => simp [before]
  | cons c r ih =>
    cases i with
    | zero => cases h : p c <;> simp [before, h]
    | succ i =>
      simp only [before, List.getElem?_cons_succ, ← ih i, Nat.testBit_succ]
      cases p c <;> simp only [Bool.toNat_false, Bool.toNat_true] <;> congr 1 <;> omega

end Places

/-- **An expression over one text.** Where its characters stand in the text and where
its anchors hold is worked out once, however often they are repeated. -/
inductive Route where
  /-- The empty text. -/
  | stay
  /-- One character, from one of the places. -/
  | cross (s : Places)
  /-- The empty text, at one of the places. -/
  | here (s : Places)
  /-- One after the other. -/
  | seq (e f : Route)
  /-- Either. -/
  | alt (e f : Route)
  /-- So often, and then at most so often again. -/
  | rep (e : Route) (least more : Nat)
  deriving DecidableEq, Repr

namespace Route

/-- Where a route may end when it starts at one of the given places. -/
def reach : Route → Places → Places
  | .stay, s => s
  | .cross places, s => (s &&& places) <<< 1
  | .here places, s => s &&& places
  | .seq e f, s => f.reach (e.reach s)
  | .alt e f, s => e.reach s ||| f.reach s
  | .rep e least more, s => Places.spread e.reach more (Places.iterate e.reach least s)

end Route

namespace PatternExpr

/-- The routes of an expression through a text. A repetition without a bound needs no
more turns than the text has characters. -/
def route (text : List Char) : PatternExpr → Route
  | .empty => .stay
  | .one set => .cross (Places.before set.has text)
  | .here a => .here (Places.anchored a none text)
  | .seq e f => .seq (e.route text) (f.route text)
  | .alt e f => .alt (e.route text) (f.route text)
  | .rep e least most => .rep (e.route text) least (most.elim text.length (· - least))

/-- **Where an expression may end** in a text when it starts at one of the given
places. -/
def reach (text : List Char) (e : PatternExpr) (s : Places) : Places := (e.route text).reach s

/-- **Whether an expression occurs in a text.** -/
def occursIn (e : PatternExpr) (text : String) : Bool :=
  e.reach text.toList (Places.upTo text.toList.length) != 0

section Equations

variable (text : List Char) (e f : PatternExpr) (s : Places)

@[simp] theorem reach_one (set : CharSet) :
    (PatternExpr.one set).reach text s = (s &&& Places.before set.has text) <<< 1 := rfl

@[simp] theorem reach_here (a : Anchor) :
    (PatternExpr.here a).reach text s = s &&& Places.anchored a none text := rfl

theorem reach_rep (least : Nat) (most : Option Nat) :
    (e.rep least most).reach text s
      = Places.spread (e.reach text) (most.elim text.length (· - least))
          (Places.iterate (e.reach text) least s) := rfl

end Equations

end PatternExpr

end TypeTest
