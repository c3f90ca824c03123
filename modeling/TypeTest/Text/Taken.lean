/-!
# Reading from the front of a text

A reader takes a value off the front of a text and leaves the rest. That the rest
is shorter is part of what a reader answers, so whoever calls readers in a loop
has the end of the loop for free.
-/

namespace TypeTest

/-- What is left of a text without its first character is shorter. -/
theorem length_lt_succ (rest : List Char) : rest.length < rest.length + 1 :=
  Nat.lt_succ_self _

theorem length_le_succ (rest : List Char) : rest.length ≤ rest.length + 1 :=
  Nat.le_succ _

theorem length_le_add_two (rest : List Char) : rest.length ≤ rest.length + 2 :=
  Nat.le_add_right _ 2

/-- **A value read off the front of a text**, with the shorter rest. -/
structure Taken (α : Type) (text : List Char) where
  /-- What was read. -/
  value : α
  /-- What is left. -/
  rest : List Char
  rest_lt : rest.length < text.length := by simp

namespace Taken

variable {α β : Type} {text : List Char}

/-- Another value read off the same front. -/
def map (f : α → β) (t : Taken α text) : Taken β text := ⟨f t.value, t.rest, t.rest_lt⟩

/-- The same value, read off a longer text with the same rest. -/
def widen {longer : List Char} (t : Taken α text) (h : text.length ≤ longer.length) :
    Taken α longer :=
  ⟨t.value, t.rest, Nat.lt_of_lt_of_le t.rest_lt h⟩

theorem rest_le_add_two (t : Taken α text) : t.rest.length ≤ text.length + 2 :=
  Nat.le_trans (Nat.le_of_lt t.rest_lt) (Nat.le_add_right _ 2)

/-- Reading on after a character leaves a rest that is shorter than the whole text. -/
theorem rest_lt_of_rest_eq {rest : List Char} {c : Char} (before : Taken α text)
    (h : before.rest = c :: rest) (t : Taken β rest) : t.rest.length < text.length := by
  have hbefore := before.rest_lt
  have ht := t.rest_lt
  rw [h, List.length_cons] at hbefore
  omega

end Taken

end TypeTest
