import TypeTest.Text.Numeral

/-!
# Characters of names

Names of scripts are made of letters and numerals of any script, `_` and `$`; a
numeral cannot start a name. A type text is made of the same names.
-/

namespace TypeTest

/-- **A character that can start a name**: a letter, `_` or `$`. -/
def isNameStart (c : Char) : Bool := c == '_' || c == '$' || isLetter c

/-- **A character that a name can go on with**: one that can start it, or a
numeral. -/
def isNamePart (c : Char) : Bool := isNameStart c || isNumeral c

theorem isNamePart_of_isNameStart (c : Char) (h : isNameStart c = true) : isNamePart c = true := by
  simp [isNamePart, h]

end TypeTest
