/-!
# Character classes as ranges of scalar values

A class of characters that a standard defines by enumeration is **data**: a
list of ranges of scalar values, ascending and apart. Nothing here knows which
class a list describes; the modules beside this one each hold one class, named
for the property, and read it through `CharRanges.has`.

Every class of this library agrees with its plain definition on the first 128
scalar values, so the lists start above them and each predicate answers for
those characters by itself.
-/

namespace TypeTest

/-- **A class of characters**, as pairs of a first and a last scalar value. -/
abbrev CharRanges := List (Nat × Nat)

/-- Whether a character lies in one of the ranges. -/
def CharRanges.has (ranges : CharRanges) (c : Char) : Bool :=
  ranges.any fun r => r.1 ≤ c.toNat && c.toNat ≤ r.2

theorem CharRanges.has_eq_true_iff (ranges : CharRanges) (c : Char) :
    ranges.has c = true ↔ ∃ r ∈ ranges, r.1 ≤ c.toNat ∧ c.toNat ≤ r.2 := by
  simp [CharRanges.has]

/-- The first 128 characters, which every class treats by a rule of its own. -/
def isAscii (c : Char) : Bool := c.toNat < 128

end TypeTest
