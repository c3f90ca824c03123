/-!
# Lines of a text

Two ways of cutting a text at its line breaks. `splitBreaks` cuts at every line
break, so it always gives at least one part and joining the parts with line breaks
gives the text back. `lines` gives the lines as a reader counts them: a line
break ends a line, so nothing follows a final one, and a carriage return before a
line break belongs to the line break.
-/

namespace TypeTest

/-- **The parts of a text between its line breaks.** -/
def splitBreaks : List Char → List (List Char)
  | [] => [[]]
  | c :: cs =>
    if c == '\n' then [] :: splitBreaks cs
    else
      match splitBreaks cs with
      | [] => [[c]]
      | part :: parts => (c :: part) :: parts

theorem splitBreaks_ne_nil (cs : List Char) : splitBreaks cs ≠ [] := by
  cases cs with
  | nil => simp [splitBreaks]
  | cons c cs =>
    simp only [splitBreaks]
    split
    · simp
    · split <;> simp

/-- Parts joined by line breaks. -/
def joinBreaks : List (List Char) → List Char
  | [] => []
  | [part] => part
  | part :: parts => part ++ '\n' :: joinBreaks parts

/-- Joining undoes splitting. -/
theorem joinBreaks_splitBreaks (cs : List Char) : joinBreaks (splitBreaks cs) = cs := by
  induction cs with
  | nil => rfl
  | cons c cs ih =>
    simp only [splitBreaks]
    have hne := splitBreaks_ne_nil cs
    split
    · rename_i h
      cases hs : splitBreaks cs with
      | nil => exact absurd hs hne
      | cons p ps => rw [hs] at ih; simp_all [joinBreaks]
    · cases hs : splitBreaks cs with
      | nil => exact absurd hs hne
      | cons p ps =>
        rw [hs] at ih
        cases ps <;> simp_all [joinBreaks]

/-- A line without the carriage return at its end. -/
def dropReturn (line : List Char) : List Char :=
  if line.getLast? = some '\r' then line.dropLast else line

/-- The lines among the parts between line breaks: the last part is a line only
if it is not empty, and no line break takes a carriage return from it. -/
def linesOfParts : List (List Char) → List (List Char)
  | [] => []
  | [part] => if part.isEmpty then [] else [part]
  | part :: parts => dropReturn part :: linesOfParts parts

/-- **The lines of a text.** -/
def lines (cs : List Char) : List (List Char) := linesOfParts (splitBreaks cs)

end TypeTest
