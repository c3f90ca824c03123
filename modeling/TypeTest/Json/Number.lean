import TypeTest.Text.Taken

/-!
# Numbers in JSON texts

A number is an integer without needless zeros, perhaps a fraction, and perhaps an
exponent. Each part that begins has to go on.
-/

namespace TypeTest

/-- One digit or more. -/
def readDigits? (text : List Char) : Option (Taken (List Char) text) :=
  let digits := text.takeWhile Char.isDigit
  if h : 0 < digits.length ∧ digits.length ≤ text.length then
    some ⟨digits, text.drop digits.length, by rw [List.length_drop]; omega⟩
  else none

/-- The whole part of a number. -/
def readWhole? : (text : List Char) → Option (Taken (List Char) text)
  | '0' :: r => some ⟨['0'], r, length_lt_succ r⟩
  | text => readDigits? text

/-- The sign of an exponent, if there is one, and its digits. -/
def readExponent? : (text : List Char) → Option (Taken (List Char) text)
  | '+' :: r => (readDigits? r).map fun t => (t.map ('+' :: ·)).widen (length_le_succ r)
  | '-' :: r => (readDigits? r).map fun t => (t.map ('-' :: ·)).widen (length_le_succ r)
  | text => readDigits? text

/-- A part that begins with one of the given characters, unless there is none. -/
def readPart? (starts : List Char) (read : (text : List Char) → Option (Taken (List Char) text))
    {whole : List Char} (before : Taken (List Char) whole) : Option (Taken (List Char) whole) :=
  match h : before.rest with
  | [] => some before
  | c :: r =>
    if starts.contains c then
      (read r).map fun t =>
        ⟨before.value ++ c :: t.value, t.rest, before.rest_lt_of_rest_eq h t⟩
    else some before

/-- **A number.** -/
def readJsonNumber? : (text : List Char) → Option (Taken (List Char) text)
  | '-' :: r => do
    let whole ← readWhole? r
    let number ← readPart? ['.'] readDigits? whole >>= readPart? ['e', 'E'] readExponent?
    some ((number.map ('-' :: ·)).widen (length_le_succ r))
  | text => readWhole? text >>= readPart? ['.'] readDigits? >>= readPart? ['e', 'E'] readExponent?

end TypeTest
