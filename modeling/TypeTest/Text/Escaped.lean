import TypeTest.Text.Extending
import TypeTest.Text.Printable

/-!
# Texts with their unprintable characters escaped

Reports show characters and strings in a form in which every character can be
seen: a backslash escape for the common control characters, the quotes and the
backslash itself, and the number of the character in braces for the others that
would not show, or would be drawn onto their neighbour.
-/

namespace TypeTest

/-- The digits of a number in base sixteen, lower case and without padding. -/
def hexDigits (n : Nat) : List Char := Nat.toDigits 16 n

/-- A character by its number: `\u` and the number in braces. -/
def numberEscape (c : Char) : List Char :=
  ['\\', 'u', '\x7b'] ++ hexDigits c.toNat ++ ['\x7d']

/-- **A character with escapes**, except that the characters in `kept` stand for
themselves. -/
def escapeExcept (kept : List Char) (c : Char) : List Char :=
  if kept.contains c then [c]
  else match c with
    | '\x00' => ['\\', '0']
    | '\t' => ['\\', 't']
    | '\r' => ['\\', 'r']
    | '\n' => ['\\', 'n']
    | '\'' => ['\\', '\'']
    | '"' => ['\\', '"']
    | '\\' => ['\\', '\\']
    | c => if isExtending c || !isPrintable c then numberEscape c else [c]

/-- A character as it stands in a message. -/
def escapeChar (c : Char) : List Char := escapeExcept [] c

/-- **A string in double quotes**, with escapes; single quotes need none. -/
def quotedChars (cs : List Char) : List Char :=
  '"' :: cs.flatMap (escapeExcept ['\'']) ++ ['"']

/-- `quotedChars` on strings. -/
def quoted (s : String) : String := String.ofList (quotedChars s.toList)

/-- A list of quoted strings in square brackets. -/
def quotedList (ss : List String) : String :=
  "[" ++ String.intercalate ", " (ss.map quoted) ++ "]"

end TypeTest
