import TypeTest.Text.Word

/-!
# Anchors

An anchor accepts a place between two characters and no character. It sees the
character on either side, if there is one.
-/

namespace TypeTest

/-- **An anchor.** -/
inductive Anchor where
  /-- The start of the text. -/
  | textStart
  /-- The end of the text. -/
  | textEnd
  /-- The start of the text or of a line in it. -/
  | lineStart
  /-- The end of the text or of a line in it. -/
  | lineEnd
  /-- Between a word character and something else. -/
  | wordEdge
  /-- Not between a word character and something else. -/
  | noWordEdge
  /-- Before the first character of a word. -/
  | wordStart
  /-- After the last character of a word. -/
  | wordEnd
  /-- Not after a word character. -/
  | noWordBefore
  /-- Not before a word character. -/
  | noWordAfter
  deriving DecidableEq, Repr

namespace Anchor

/-- **Whether the anchor holds between two neighbours**; `none` is an end of the
text. -/
def holds (before after : Option Char) : Anchor → Bool
  | .textStart => before.isNone
  | .textEnd => after.isNone
  | .lineStart => before.all (· == '\n')
  | .lineEnd => after.all (· == '\n')
  | .wordEdge => before.any isWordChar != after.any isWordChar
  | .noWordEdge => before.any isWordChar == after.any isWordChar
  | .wordStart => !before.any isWordChar && after.any isWordChar
  | .wordEnd => before.any isWordChar && !after.any isWordChar
  | .noWordBefore => !before.any isWordChar
  | .noWordAfter => !after.any isWordChar

end Anchor

end TypeTest
