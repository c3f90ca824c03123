import TypeTest.Text.Escaped
import TypeTest.Text.Position

/-!
# What can be wrong with a script

A script is refused for a **cause**, at an **offset** of its text. The scanner
and the parser know no more than that; where the offset lies in lines and
columns, and which file it was, is added once, in `ScriptError.malformed`. The
wording of every cause is in `SyntaxCause.message` alone.
-/

namespace TypeTest

/-- **Why a script is refused.** -/
inductive SyntaxCause where
  /-- The text ends inside a comment, an escape or a construct. -/
  | prematureEnd
  /-- No token starts with this character, or no escape goes on with it. -/
  | unexpectedChar (c : Char)
  /-- A string or a template has no closing quote. -/
  | unterminatedString
  /-- Expressions and blocks are nested beyond the limit. -/
  | tooDeeplyNested
  /-- A token stands where something else has to stand. -/
  | unexpectedToken (found expected : String)
  deriving DecidableEq, Repr

/-- The wording of a cause. -/
def SyntaxCause.message : SyntaxCause → String
  | .prematureEnd => "premature end of file"
  | .unexpectedChar c => "unexpected character '" ++ String.ofList (escapeChar c) ++ "'"
  | .unterminatedString => "unterminated string literal"
  | .tooDeeplyNested => "too deeply nested code"
  | .unexpectedToken found expected => "unexpected '" ++ found ++ "', expecting " ++ expected

/-- **A fault**: a cause and the byte offset it stands at. -/
structure SyntaxFault where
  cause : SyntaxCause
  offset : Nat
  deriving DecidableEq, Repr

/-- **Why a script could not be loaded.** -/
inductive ScriptError where
  /-- Its file could not be read. -/
  | unreadable (reason : String)
  /-- Its text is refused; the file is known if the text came with a name. -/
  | malformed (cause : SyntaxCause) (file : Option String) (position : LineColumn)
  deriving DecidableEq, Repr

namespace ScriptError

/-- A fault as an error of a text, which may be that of a named file. -/
def ofFault (file : Option String) (text : String) (fault : SyntaxFault) : ScriptError :=
  .malformed fault.cause file (.ofOffset text.toList fault.offset)

/-- The error in words, positions counted from one. -/
def message : ScriptError → String
  | .unreadable reason => reason
  | .malformed cause none position => cause.message ++ " at " ++ position.display
  | .malformed cause (some file) position =>
    cause.message ++ " at " ++ file ++ ":" ++ position.display

/-- The error behind this one, in words: only a reading error has one. -/
def source : ScriptError → Option String
  | .unreadable reason => some reason
  | .malformed .. => none

/-- Whether the error is about what the file holds, not about reading it. -/
def isInvalidData : ScriptError → Bool
  | .unreadable _ => false
  | .malformed .. => true

end ScriptError

end TypeTest
