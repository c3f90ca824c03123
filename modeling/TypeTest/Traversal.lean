/-!
# Going through trees

To go through a tree is to see a node and everything below it, each node before what is below
it. The recursion that lists them is the plain description. Trees can be deep, so the program
does not recurse: it keeps the nodes that are left on a stack, takes off the one on top, and
puts those directly below it in its place. Both see the same nodes in the same order
(`Traversal.loop_eq`), and how much is listed for the stack is what ends the loop.
-/

namespace TypeTest

/-- **A way through trees**, with the list of the nodes that it comes by. -/
structure Traversal (α : Type) where
  /-- What lies directly below a node, in order. -/
  below : α → List α
  /-- A node and everything below it. -/
  preorder : α → List α
  /-- The node comes first, and then what is listed for each node directly below it. -/
  preorder_eq : ∀ n, preorder n = n :: (below n).flatMap preorder

namespace Traversal

variable {α β : Type} (t : Traversal α) (emit : α → List β)

/-- With the node on top opened, one node less is left. -/
theorem length_opened_lt (n : α) (stack : List α) :
    ((t.below n ++ stack).flatMap t.preorder).length
      < ((n :: stack).flatMap t.preorder).length := by
  rw [List.flatMap_append, List.flatMap_cons, t.preorder_eq n, List.cons_append, List.length_cons]
  exact Nat.lt_succ_self _

/-- **The loop over a stack**: what is emitted for each node, as it is taken off. -/
def loop : List α → List β
  | [] => []
  | n :: stack => emit n ++ loop (t.below n ++ stack)
termination_by stack => (stack.flatMap t.preorder).length
decreasing_by exact t.length_opened_lt n stack

/-- **The loop sees what the recursion lists.** -/
theorem loop_eq (stack : List α) :
    t.loop emit stack = (stack.flatMap t.preorder).flatMap emit := by
  fun_induction loop t emit stack with
  | case1 => rfl
  | case2 n stack ih =>
    rw [ih, List.flatMap_append, List.flatMap_cons, t.preorder_eq n, List.cons_append,
      List.flatMap_cons]

/-- The loop that starts at one node goes through what is listed for it. -/
theorem loop_singleton (n : α) : t.loop emit [n] = (t.preorder n).flatMap emit := by
  rw [loop_eq, List.flatMap_singleton]

end Traversal

end TypeTest
