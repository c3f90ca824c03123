import TypeTest.Text.Casing
import TypeTest.Text.CharRange

/-!
# Classes as sets

Ranges that ascend and neither meet nor touch are the normal form of a class, in
which two classes are equal just when they hold the same characters. The operations
here keep that form: union and complement, with intersection from the two, and the
closure of a class up to case. The numbers from D800 to DFFF are no characters, and
no range holds one.
-/

namespace TypeTest

namespace CharRanges

/-- One more range. Those that it meets or touches become one with it. -/
def insert (r : Nat × Nat) : CharRanges → CharRanges
  | [] => [r]
  | q :: rest =>
    if r.2 + 1 < q.1 then r :: q :: rest
    else if q.2 + 1 < r.1 then q :: insert r rest
    else insert (min r.1 q.1, max r.2 q.2) rest

/-- The characters of either class. -/
def union (s t : CharRanges) : CharRanges := s.foldr insert t

/-- The characters from one to another, both included. -/
def span (first last : Char) : CharRanges :=
  if first.toNat ≤ 0xD7FF ∧ 0xE000 ≤ last.toNat then
    [(first.toNat, 0xD7FF), (0xE000, last.toNat)]
  else [(first.toNat, last.toNat)]

/-- What lies between the ranges, from a number on. -/
def gaps (next : Nat) : CharRanges → CharRanges
  | [] => if next ≤ 0x10FFFF then [(next, 0x10FFFF)] else []
  | r :: rest => if next < r.1 then (next, r.1 - 1) :: gaps (r.2 + 1) rest else gaps (r.2 + 1) rest

/-- The characters outside a class. -/
def complement (s : CharRanges) : CharRanges := gaps 0 (insert (0xD800, 0xDFFF) s)

/-- The characters of both classes. -/
def inter (s t : CharRanges) : CharRanges := complement (union (complement s) (complement t))

/-- Whether a number lies in one of the ranges. -/
def holds (s : CharRanges) (n : Nat) : Bool := s.any fun r => r.1 ≤ n && n ≤ r.2

/-- The characters that are the same as one of the class up to case. They are the
members, what members are sent to, and what is sent to one of those. -/
def upToCase (s : CharRanges) : CharRanges :=
  let pairs := foldRuns.flatMap foldPairs
  let folded := (pairs.filter fun p => s.holds p.1).foldr (fun p t => insert (p.2, p.2) t) s
  (pairs.filter fun p => folded.holds p.2).foldr (fun p t => insert (p.1, p.1) t) folded

/-- The only character of a class, if it has just one. -/
def sole? : CharRanges → Option Char
  | [r] => if r.1 = r.2 then some (Char.ofNat r.1) else none
  | _ => none

end CharRanges

end TypeTest
