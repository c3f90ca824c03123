import TypeTest.Pattern.Bracket
import TypeTest.Pattern.Flags
import TypeTest.Pattern.Tree

/-!
# Reading patterns

A pattern is read from left to right, with the groups that are open kept as a
stack. Of an open group it is known which branches it has had and what its
current branch holds so far. A repetition takes the last item of the branch; a
change of flags cannot be repeated, and neither can the start of a branch.
-/

namespace TypeTest

/-- **A group whose end has not been read.** -/
structure OpenGroup where
  /-- Whether it captures. -/
  captures : Bool := false
  /-- The branches before the current one, the last one first. -/
  branches : List PatternTree := []
  /-- The items of the current branch, the last one first. -/
  items : List PatternTree := []
  /-- Whether there is a last item that can be repeated. -/
  repeatable : Bool := false
  /-- The flags at the start of the group, which return at its end. -/
  flags : PatternFlags := {}
  deriving DecidableEq, Repr

namespace OpenGroup

/-- The current branch as a whole. -/
def branch (g : OpenGroup) : PatternTree := .ofItems g.items.reverse

/-- One more item in the current branch. -/
def push (g : OpenGroup) (e : PatternTree) : OpenGroup :=
  { g with items := e :: g.items, repeatable := true }

/-- A change of flags in the current branch. -/
def change (g : OpenGroup) : OpenGroup :=
  { g with items := .empty :: g.items, repeatable := false }

/-- All branches, the current one included. -/
def joined (g : OpenGroup) : PatternTree :=
  match g.branches.reverse with
  | [] => g.branch
  | e :: es => .ofBranches e (es ++ [g.branch])

/-- A new branch. -/
def bar (g : OpenGroup) : OpenGroup :=
  { g with branches := g.branch :: g.branches, items := [], repeatable := false }

/-- The last item, repeated. -/
def repeat? (g : OpenGroup) (count : RepeatCount) (short : Bool) : Option OpenGroup :=
  match g.repeatable, g.items with
  | true, e :: es => some { g with items := .rep e count short :: es }
  | _, _ => none

end OpenGroup

/-- Whether the sign for a short repetition follows. -/
def opensLazy (text : List Char) : Bool := text.head? == some '?'

/-- The text after the sign for a short repetition, if there is one. -/
def afterLazy (text : List Char) : List Char :=
  if opensLazy text then text.drop 1 else text

theorem length_afterLazy_le (text : List Char) : (afterLazy text).length ≤ text.length := by
  unfold afterLazy
  split
  · rw [List.length_drop]; omega
  · exact Nat.le_refl _

/-- **A pattern in the course of reading**: the flags in force and the open groups. -/
structure PatternState where
  /-- The flags in force. -/
  flags : PatternFlags := {}
  /-- The innermost open group; outside of every group, the whole pattern. -/
  group : OpenGroup := {}
  /-- The groups around it, innermost first. -/
  outer : List OpenGroup := []
  deriving DecidableEq, Repr

namespace PatternState

/-- One more item. -/
def push (st : PatternState) (e : PatternTree) : PatternState :=
  { st with group := st.group.push e }

/-- A group opens, with flags of its own. -/
def openGroup (st : PatternState) (captures : Bool) (flags : PatternFlags) : PatternState :=
  ⟨flags, { captures := captures, flags := st.flags }, st.group :: st.outer⟩

/-- The innermost group ends and is an item of the one around it. -/
def closeGroup? (st : PatternState) : Option PatternState :=
  match st.outer with
  | [] => none
  | up :: out =>
    some ⟨st.group.flags, up.push (.group st.group.captures st.group.joined), out⟩

/-- One character of a set that is written with so many levels of brackets. -/
def pushSet (st : PatternState) (s : CharSet) (depth : Nat) : PatternState :=
  st.push (.one (st.flags.set s) depth)

/-- What an escape stands for is one more item. -/
def pushEscape (st : PatternState) : Escape → PatternState
  | .char c => st.pushSet (.one c) 0
  | .set s => st.pushSet s 0
  | .anchor a => st.push (.here a)

/-- The last item, repeated. The sign for a short repetition may follow. -/
def repeat? (st : PatternState) (count : RepeatCount) (text : List Char) :
    Option PatternState :=
  (st.group.repeat? count (opensLazy text != st.flags.swapped)).map fun g =>
    { st with group := g }

/-- What stands between an opening parenthesis with a question mark and the end of
the group or of the change of flags. -/
def openFlags? (st : PatternState) (text : List Char) : Option (Taken PatternState text) :=
  let letters := text.takeWhile fun c => c != ':' && c != ')'
  match st.flags.change? [] true letters with
  | none => none
  | some flags =>
    match h : text.drop letters.length with
    | ':' :: r => some ⟨st.openGroup false flags, r, by
        have := congrArg List.length h
        simp only [List.length_drop, List.length_cons] at this
        omega⟩
    | ')' :: r =>
      if letters = [] then none
      else some ⟨{ st with flags := flags, group := st.group.change }, r, by
        have := congrArg List.length h
        simp only [List.length_drop, List.length_cons] at this
        omega⟩
    | _ => none

/-- A repetition sign has been read: the last item is repeated. -/
def readRepeat? (st : PatternState) (count : RepeatCount) (c : Char) (r : List Char) :
    Option (Taken PatternState (c :: r)) :=
  (st.repeat? count r).map fun st =>
    ⟨st, afterLazy r, Nat.lt_succ_of_le (length_afterLazy_le r)⟩

/-- **One step of reading.** -/
def read? (st : PatternState) : (text : List Char) → Option (Taken PatternState text)
  | [] => none
  | '(' :: '?' :: r => (st.openFlags? r).map (·.widen (by simp only [List.length_cons]; omega))
  | '(' :: r => some ⟨st.openGroup true st.flags, r, length_lt_succ r⟩
  | ')' :: r => st.closeGroup?.map fun st => ⟨st, r, length_lt_succ r⟩
  | '|' :: r => some ⟨{ st with group := st.group.bar }, r, length_lt_succ r⟩
  | '[' :: r =>
    (readClass? r).map fun part =>
      (part.map fun part => st.pushSet part.set part.height).widen (length_le_succ r)
  | '?' :: r => st.readRepeat? ⟨0, some 1⟩ '?' r
  | '*' :: r => st.readRepeat? ⟨0, none⟩ '*' r
  | '+' :: r => st.readRepeat? ⟨1, none⟩ '+' r
  | '\x7b' :: r =>
    (RepeatCount.read? r).bind fun count =>
      (st.repeat? count.value count.rest).map fun st =>
        ⟨st, afterLazy count.rest, by
          have := count.rest_lt
          have := length_afterLazy_le count.rest
          simp only [List.length_cons]
          omega⟩
  | '\\' :: r =>
    (Escape.read? r).map fun e => (e.map st.pushEscape).widen (length_le_succ r)
  | '.' :: r => some ⟨st.push (.one st.flags.dot 0), r, length_lt_succ r⟩
  | '^' :: r => some ⟨st.push (.here st.flags.caret), r, length_lt_succ r⟩
  | '$' :: r => some ⟨st.push (.here st.flags.dollar), r, length_lt_succ r⟩
  | c :: r => some ⟨st.pushSet (.one c) 0, r, length_lt_succ r⟩

/-- **All steps of reading**, to the end of the pattern, where no group may be open. -/
def readAll? (st : PatternState) (text : List Char) : Option PatternTree :=
  match text with
  | [] => if st.outer = [] then some st.group.joined else none
  | c :: r =>
    match st.read? (c :: r) with
    | none => none
    | some step => readAll? step.value step.rest
  termination_by text.length
  decreasing_by exact step.rest_lt

end PatternState

/-- **The pattern that a text writes**, if it writes one. -/
def PatternTree.read? (text : List Char) : Option PatternTree :=
  PatternState.readAll? {} text

end TypeTest
