import TypeTest.Pattern.Anchor
import TypeTest.Pattern.CharSet

/-!
# Flags of patterns

A pattern may change how its next characters are to be taken, up to the end of
the group that it does so in: `i` makes characters blind to case, `m` lets `^` and
`$` hold at every line, `s` lets the dot accept a line feed, and `U` swaps long and
short repetitions. Letters after a hyphen take flags back.
-/

namespace TypeTest

/-- **The flags in force.** -/
structure PatternFlags where
  /-- Characters are blind to case. -/
  anyCase : Bool := false
  /-- Anchors hold at lines. -/
  lines : Bool := false
  /-- The dot accepts line feeds. -/
  dotAll : Bool := false
  /-- Repetitions prefer to be short, and long with the sign for short ones. -/
  swapped : Bool := false
  deriving DecidableEq, Repr

namespace PatternFlags

/-- The flags with one of them changed. -/
def set? (flags : PatternFlags) (letter : Char) (on : Bool) : Option PatternFlags :=
  match letter with
  | 'i' => some { flags with anyCase := on }
  | 'm' => some { flags with lines := on }
  | 's' => some { flags with dotAll := on }
  | 'U' => some { flags with swapped := on }
  | _ => none

/-- The flags changed by letters, each at most once; `seen` came before them. -/
def change? (seen : List Char) (on : Bool) (flags : PatternFlags) :
    List Char → Option PatternFlags
  | [] => some flags
  | '-' :: r => if on ∧ r ≠ [] then change? seen false flags r else none
  | c :: r =>
    if seen.contains c then none
    else (flags.set? c on).bind fun changed => change? (c :: seen) on changed r

/-- A set of characters, under the flags. -/
def set (flags : PatternFlags) (s : CharSet) : CharSet :=
  if flags.anyCase then s.anyCase else s

/-- What the dot accepts, under the flags. -/
def dot (flags : PatternFlags) : CharSet :=
  if flags.dotAll then .all else .notLineFeed

/-- The sign `^`, under the flags. -/
def caret (flags : PatternFlags) : Anchor :=
  if flags.lines then .lineStart else .textStart

/-- The sign `$`, under the flags. -/
def dollar (flags : PatternFlags) : Anchor :=
  if flags.lines then .lineEnd else .textEnd

end PatternFlags

end TypeTest
