/-!
# Characters by number

Scripts, patterns and project files name characters by their numbers, written in
base sixteen with digits of either case.
-/

namespace TypeTest

/-- The value of a digit in base sixteen. -/
def hexValue (c : Char) : Option Nat :=
  if '0' ≤ c ∧ c ≤ '9' then some (c.toNat - '0'.toNat)
  else if 'a' ≤ c ∧ c ≤ 'f' then some (c.toNat - 'a'.toNat + 10)
  else if 'A' ≤ c ∧ c ≤ 'F' then some (c.toNat - 'A'.toNat + 10)
  else none

/-- A number in base sixteen, of at least one digit. -/
def hexNumber? : List Char → Option Nat
  | [] => none
  | cs => cs.foldl (fun n c => n.bind fun n => (hexValue c).map (16 * n + ·)) (some 0)

/-- **The character with a number**, unless there is none. -/
def charOfNat? (n : Nat) : Option Char :=
  if n.isValidChar then some (Char.ofNat n) else none

end TypeTest
