import TypeTest.Pattern.Plan
import TypeTest.Pattern.WordTree
import TypeTest.Text.ByteRange

/-!
# The size of a pattern

A pattern is refused when the automata that search for it would grow too large. There
are two: one reads the bytes of a name from the first, and records where groups begin
and end; the other reads them from the last. Their states are counted here and
nothing is built. A state takes 32 bytes, a way on from it 8 more if there are others,
and a branch 4. A repetition is laid out as often as it says, so what is written in a
few characters can be large.
-/

namespace TypeTest

/-- **The order in which bytes are read.** -/
inductive ReadOrder where
  /-- From the first. -/
  | forward
  /-- From the last. -/
  | backward
  deriving DecidableEq, Repr

namespace Plan

/-- The bytes of one character of a class. A class of the first 128 characters is a
single state with an end. Any other class is as small as can be in forward order; in
backward order it is a branch for each of its byte strings, which share only what
they begin with. -/
def classBytes (order : ReadOrder) (s : CharRanges) : Nat :=
  if s.all (·.2 < 128) then 64 + 8 * s.length
  else
    let strings := ByteStrings.ofRanges s
    match order with
    | .forward => 32 + total (strings.states.map fun t => 32 + 8 * t.next.length)
    | .backward => 64 + 4 * strings.length + 32 * strings.beginnings 4

/-- The bytes of a text, in the order in which they are read. -/
def readBytes (order : ReadOrder) (cs : List Char) : List UInt8 :=
  let bytes := cs.flatMap String.utf8EncodeChar
  match order with
  | .forward => bytes
  | .backward => bytes.reverse

/-- The texts of a choice, if it is one between texts. -/
def texts? (es : List Plan) : Option (List (List Char)) :=
  es.mapM fun e => match e with | .text cs => some cs | _ => none

/-- The bytes of a repetition of something that takes `n`. -/
def repBytes (n : Nat) (nonempty : Bool) (least : Nat) : (most : Option Nat) → Nat
  | none =>
    match least with
    | 0 => if nonempty then n + 40 else n + 112
    | least => least * n + 40
  | some most =>
    if least = 0 ∧ most = 1 then n + 72
    else if least = most then least * n
    else (if least = 0 then 32 else least * n) + 32 + (most - least) * (n + 40)

mutual

/-- **The bytes that a plan takes.** -/
def bytes (order : ReadOrder) : Plan → Nat
  | .empty => 32
  | .text cs => 32 * total (cs.map Char.utf8Size)
  | .one s => classBytes order s
  | .here _ => 32
  | .capture e =>
    match order with
    | .forward => e.bytes order + 64
    | .backward => e.bytes order
  | .rep e least most _ => repBytes (e.bytes order) e.isNonempty least most
  | .seq es => bytesSum order es
  | .alt es =>
    match texts? es with
    | some words => WordTree.bytes (words.map (readBytes order))
    | none => 64 + 4 * es.length + bytesSum order es

/-- The bytes that the plans of a list take. -/
def bytesSum (order : ReadOrder) : List Plan → Nat
  | [] => 0
  | e :: es => e.bytes order + bytesSum order es

end

/-- The bytes of the whole automaton. It starts anywhere in the text unless the plan
is tied to the end that it starts from, and the forward one marks what it accepts as
a group. -/
def automatonBytes (e : Plan) : ReadOrder → Nat
  | .forward => (if e.isTied .textStart false then 32 else 112) + 96 + e.bytes .forward
  | .backward => (if e.isTied .textEnd true then 32 else 112) + 32 + e.bytes .backward

/-- An automaton may take ten mebibytes. -/
def bytesLimit : Nat := 10 * 1024 * 1024

/-- Whether both automata keep the limit. -/
def isWithinLimit (e : Plan) : Bool :=
  e.automatonBytes .forward ≤ bytesLimit && e.automatonBytes .backward ≤ bytesLimit

end Plan

end TypeTest
