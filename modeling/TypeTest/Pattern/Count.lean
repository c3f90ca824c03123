import TypeTest.Text.Taken
import TypeTest.Text.Blank

/-!
# Counts of repetitions

In braces stands how often something is repeated: exactly, at least, or from one
number to another. Every opening brace of a pattern begins such a count. A number
may have blanks around it and has to fit 32 bits.
-/

namespace TypeTest

/-- **How often**: at least so many times, and at most so many if there is a
bound. -/
structure RepeatCount where
  /-- The least number. -/
  least : Nat
  /-- The greatest, if there is one. -/
  most : Option Nat
  deriving DecidableEq, Repr

namespace RepeatCount

/-- The first number that does not fit. -/
def numberBound : Nat := Nat.pow 2 32

/-- The number that decimal digits write. -/
def number (digits : List Char) : Nat :=
  digits.foldl (fun n c => 10 * n + (c.toNat - '0'.toNat)) 0

/-- A number with blanks around it, and what follows. -/
def readNumber? (text : List Char) : Option (Taken Nat text) :=
  let digits := (trimStart text).takeWhile Char.isDigit
  let rest := trimStart ((trimStart text).drop digits.length)
  if h : rest.length < text.length then
    if digits ≠ [] ∧ number digits < numberBound then some ⟨number digits, rest, h⟩ else none
  else none

/-- **A count after its opening brace**, with the closing one. -/
def read? (text : List Char) : Option (Taken RepeatCount text) := do
  let first ← readNumber? text
  match h : first.rest with
  | '\x7d' :: r => some ⟨⟨first.value, some first.value⟩, r, by
      have := first.rest_lt
      simp only [h, List.length_cons] at this
      omega⟩
  | ',' :: '\x7d' :: r => some ⟨⟨first.value, none⟩, r, by
      have := first.rest_lt
      simp only [h, List.length_cons] at this
      omega⟩
  | ',' :: r =>
    let last ← readNumber? r
    match h' : last.rest with
    | '\x7d' :: s =>
      if first.value ≤ last.value then
        some ⟨⟨first.value, some last.value⟩, s, by
          have := first.rest_lt
          have := last.rest_lt
          simp only [h, h', List.length_cons] at *
          omega⟩
      else none
    | _ => none
  | _ => none

end RepeatCount

end TypeTest
