/-!
# Totals

Lengths and weights are totals of natural numbers. `total` is a recursion on the list, with
the zero and the addition of the numbers themselves.
-/

namespace TypeTest

/-- **The total of numbers.** -/
def total : List Nat → Nat
  | [] => 0
  | n :: ns => n + total ns

@[simp] theorem total_nil : total [] = 0 := rfl

@[simp] theorem total_cons (n : Nat) (ns : List Nat) : total (n :: ns) = n + total ns := rfl

@[simp] theorem total_append (ns ms : List Nat) : total (ns ++ ms) = total ns + total ms := by
  induction ns with
  | nil => exact (Nat.zero_add _).symm
  | cons n ns ih => rw [List.cons_append, total_cons, total_cons, ih, Nat.add_assoc]

@[simp] theorem total_reverse (ns : List Nat) : total ns.reverse = total ns := by
  induction ns with
  | nil => rfl
  | cons n ns ih =>
    rw [List.reverse_cons, total_append, ih, total_cons, total_cons, total_nil, Nat.add_zero,
      Nat.add_comm]

end TypeTest
