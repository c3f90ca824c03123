import TypeTest.Pattern.Anchor
import TypeTest.Pattern.CharSet
import TypeTest.Text.HexNumber
import TypeTest.Text.Taken

/-!
# Escapes in patterns

What follows a backslash: the letter of a control character, a class or an
anchor, the number of a character, or punctuation that stands for itself. Digits
would refer back to a group, which patterns cannot do, and the other letters
mean nothing. The letter of an edge of a word may have a name in braces after it,
which says what kind of edge; anything else in braces is a count.
-/

namespace TypeTest

/-- **What an escape stands for.** -/
inductive Escape where
  | char (c : Char)
  | set (s : CharSet)
  | anchor (a : Anchor)
  deriving DecidableEq, Repr

namespace Escape

/-- The escapes of one character. -/
def ofLetter? (c : Char) : Option Escape :=
  match c with
  | 'a' => some (.char '\x07')
  | 'f' => some (.char '\x0C')
  | 't' => some (.char '\t')
  | 'n' => some (.char '\n')
  | 'r' => some (.char '\r')
  | 'v' => some (.char '\x0B')
  | 'd' => some (.set .decimal)
  | 'D' => some (.set (.not .decimal))
  | 's' => some (.set .blank)
  | 'S' => some (.set (.not .blank))
  | 'w' => some (.set .word)
  | 'W' => some (.set (.not .word))
  | 'A' => some (.anchor .textStart)
  | 'z' => some (.anchor .textEnd)
  | 'b' => some (.anchor .wordEdge)
  | 'B' => some (.anchor .noWordEdge)
  | '<' => some (.anchor .wordStart)
  | '>' => some (.anchor .wordEnd)
  | c => if isAscii c && !c.isAlphanum then some (.char c) else none

/-- How many digits the number of a character has after one of these letters,
without braces. -/
def numberWidth? (c : Char) : Option Nat :=
  match c with
  | 'x' => some 2
  | 'u' => some 4
  | 'U' => some 8
  | _ => none

/-- The number of a character: in braces, or with a fixed number of digits. -/
def readNumber? (width : Nat) (text : List Char) : Option (Taken Nat text) :=
  let inBraces := (text.drop 1).takeWhile (· != '\x7d')
  let size := if text.head? = some '\x7b' then inBraces.length + 2 else width
  let digits := if text.head? = some '\x7b' then inBraces else text.take width
  if h : 0 < size ∧ size ≤ text.length then
    (hexNumber? digits).map fun n => ⟨n, text.drop size, by rw [List.length_drop]; omega⟩
  else none

/-- The edges of words with a name. -/
def edge? (name : List Char) : Option Anchor :=
  match String.ofList name with
  | "start" => some .wordStart
  | "end" => some .wordEnd
  | "start-half" => some .noWordBefore
  | "end-half" => some .noWordAfter
  | _ => none

/-- The characters of the name of an edge. -/
def isEdgeChar (c : Char) : Bool := c.isAlpha || c == '-'

/-- Whether a name in braces follows. -/
def opensEdge (text : List Char) : Bool :=
  text.head? == some '\x7b' && (text.drop 1).head?.any isEdgeChar

/-- The edge whose name follows in braces. -/
def readEdge? (text : List Char) : Option (Taken Anchor text) :=
  let name := (text.drop 1).takeWhile isEdgeChar
  if h : name.length + 2 ≤ text.length then
    if text[name.length + 1]? = some '\x7d' then
      (edge? name).map fun a =>
        ⟨a, text.drop (name.length + 2), by rw [List.length_drop]; omega⟩
    else none
  else none

/-- **The escape after a backslash.** -/
def read? : (text : List Char) → Option (Taken Escape text)
  | [] => none
  | c :: r =>
    match numberWidth? c with
    | some width => do
      let number ← readNumber? width r
      let found ← charOfNat? number.value
      some ((number.map fun _ => .char found).widen (length_le_succ r))
    | none =>
      if c = 'b' ∧ opensEdge r then
        (readEdge? r).map fun edge => (edge.map .anchor).widen (length_le_succ r)
      else (ofLetter? c).map fun e => ⟨e, r, length_lt_succ r⟩

end Escape

end TypeTest
