import TypeTest.Text.Blank
import TypeTest.TypeText.Quoted

/-!
# The arguments of a generic type

`arguments` splits a type text such as `Pair<A, Box<B>>` at the commas of its
angle brackets. It counts brackets of all kinds together and leaves quoted regions
alone; the `>` of an arrow `=>` closes nothing. A text that goes on after the
closing bracket is no single instance of a generic and has no arguments.
-/

namespace TypeTest.TypeText

/-- The arguments read so far: how deep in brackets the reader is, the character
before, the current argument (last character first) once the list was opened, and
the finished arguments, last first. -/
structure ArgumentScan where
  depth : Nat
  before : Char
  current : Option (List Char)
  found : List String

namespace ArgumentScan

/-- The start of a text. -/
def start : ArgumentScan := ⟨0, ' ', none, []⟩

/-- Reads a character into the current argument, at a given depth after it. -/
def keep (s : ArgumentScan) (c : Char) (depth : Nat) : ArgumentScan :=
  ⟨depth, c, s.current.map (c :: ·), s.found⟩

/-- The finished arguments when the current one, if there is one, is finished. -/
def finished (s : ArgumentScan) : List String :=
  match s.current with
  | none => s.found
  | some cs => String.ofList (trim cs.reverse) :: s.found

end ArgumentScan

/-- The arguments in the rest of a text. -/
def argumentsFrom (s : ArgumentScan) : List (Char × Bool) → List String
  | [] => []
  | (c, true) :: cs => argumentsFrom (s.keep c s.depth) cs
  | ('<', false) :: cs =>
    if s.depth == 0 && s.current.isNone then argumentsFrom ⟨1, '<', some [], s.found⟩ cs
    else argumentsFrom (s.keep '<' (s.depth + 1)) cs
  | ('>', false) :: cs =>
    if s.before == '=' || s.depth == 0 then argumentsFrom (s.keep '>' s.depth) cs
    else if s.depth == 1 then
      if cs.all fun m => isBlank m.1 then s.finished.reverse else []
    else argumentsFrom (s.keep '>' (s.depth - 1)) cs
  | (',', false) :: cs =>
    if s.depth == 1 && s.current.isSome then
      argumentsFrom ⟨1, ',', some [], s.finished⟩ cs
    else argumentsFrom (s.keep ',' s.depth) cs
  | (c, false) :: cs =>
    if c == '(' || c == '[' || c == '\x7b' then argumentsFrom (s.keep c (s.depth + 1)) cs
    else if c == ')' || c == ']' || c == '\x7d' then argumentsFrom (s.keep c (s.depth - 1)) cs
    else argumentsFrom (s.keep c s.depth) cs

/-- **The arguments of a type** that is an instance of a generic, in order; none
for any other type. -/
def arguments (type : String) : List String :=
  argumentsFrom .start (markQuoted (trim type.toList))

end TypeTest.TypeText
