import TypeTest.Text.CharRange
import TypeTest.Total

/-!
# Byte strings of ranges of characters

The characters of a range, written in UTF-8, are the strings of a few patterns, each
with a range of bytes in every place: characters of one length that agree in all
digits to base 64 but the last ones, which run over all their values. From these
patterns follows how many states an automaton on bytes has that accepts one
character of a class, read from the first byte or from the last.
-/

namespace TypeTest

/-- **A range of bytes**, as its first and its last. -/
abbrev ByteRange := Nat × Nat

/-- The strings for the numbers from `first` to `last`, of a leading byte with a mark
and `k` bytes after it. The numbers that share the leading digit of `first` come
first and those that share that of `last` come last; between them the digits that
follow the leading one are free. -/
def byteStrings (mark : Nat) : (k first last : Nat) → List (List ByteRange)
  | 0, first, last => [[(mark + first, mark + last)]]
  | k + 1, first, last =>
    let unit := 64 ^ (k + 1)
    let top := first / unit
    let bottom := last / unit
    if top = bottom then
      (byteStrings 0x80 k (first % unit) (last % unit)).map ((mark + top, mark + top) :: ·)
    else
      let whole := first % unit = 0
      let full := last % unit = unit - 1
      let low := if whole then top else top + 1
      let high := if full then bottom else bottom - 1
      (if whole then []
        else (byteStrings 0x80 k (first % unit) (unit - 1)).map ((mark + top, mark + top) :: ·))
      ++ (if low ≤ high then
          [(mark + low, mark + high) :: List.replicate (k + 1) (0x80, 0xBF)]
        else [])
      ++ (if full then []
        else (byteStrings 0x80 k 0 (last % unit)).map ((mark + bottom, mark + bottom) :: ·))

/-- The lengths of characters: the mark of the leading byte, the bytes after it, and
the first and the last character of that length. -/
def byteLengths : List (Nat × Nat × Nat × Nat) :=
  [(0, 0, 0, 0x7F), (0xC0, 1, 0x80, 0x7FF), (0xE0, 2, 0x800, 0xFFFF),
   (0xF0, 3, 0x10000, 0x10FFFF)]

/-- **A set of byte strings**, in order. -/
abbrev ByteStrings := List (List ByteRange)

namespace ByteStrings

/-- The byte strings of the characters of a class. -/
def ofRanges (s : CharRanges) : ByteStrings :=
  s.flatMap fun r =>
    byteLengths.flatMap fun (mark, k, least, greatest) =>
      if max r.1 least ≤ min r.2 greatest then
        byteStrings mark k (max r.1 least) (min r.2 greatest)
      else []

/-- What may follow the first byte: a set for each range in the first place. Strings
with the same range there are neighbours. -/
def next (s : ByteStrings) : List ByteStrings :=
  (s.splitBy fun a b => a.head? == b.head?).map (·.map List.tail)

/-- What may still follow after some bytes, for all beginnings of up to `n` bytes. -/
def residuals : Nat → ByteStrings → List ByteStrings
  | 0, _ => []
  | n + 1, s => if s.all List.isEmpty then [] else s :: s.next.flatMap (residuals n)

/-- How many different beginnings of up to `n` bytes there are. -/
def beginnings : Nat → ByteStrings → Nat
  | 0, _ => 0
  | n + 1, s =>
    if s.all List.isEmpty then 0 else total (s.next.map fun t => 1 + beginnings n t)

/-- The states of the automaton that reads a string from its first byte: what may
still follow, each once. -/
def states (s : ByteStrings) : List ByteStrings := (residuals 4 s).eraseDups

end ByteStrings

end TypeTest
