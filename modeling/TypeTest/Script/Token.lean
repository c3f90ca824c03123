import TypeTest.Text.Position

/-!
# Tokens

A token of a script keeps, besides what it is, **its own text** and the text
between the token before it and itself: blanks and comments, its `trivia`. So
the tokens of a text spell that text, and whoever reads tokens never has to look
back into it: whether a line breaks before a token, and the raw text of a run of
tokens, are read off the tokens themselves.
-/

namespace TypeTest

/-- **What a token is.** -/
inductive TokenKind where
  /-- A name or a word of the language. -/
  | identifier
  /-- A string literal, with what its escapes stand for. -/
  | string (value : String)
  /-- A template literal and whether it has substitutions. -/
  | template (value : String) (substitutions : Bool)
  | number
  /-- Any one character of punctuation. -/
  | punct (c : Char)
  /-- The two characters `=>`. -/
  | arrow
  /-- The three characters `...`. -/
  | ellipsis
  /-- The end of the text, always the last token and nowhere else. -/
  | endOfText
  deriving DecidableEq, Repr, Inhabited

/-- **A token** of a script. -/
structure Token where
  kind : TokenKind
  /-- The blanks and comments before it. -/
  trivia : String
  /-- Its own characters. -/
  text : String
  /-- The offset of its first byte. -/
  start : Nat
  deriving DecidableEq, Repr, Inhabited

namespace Token

/-- The offset just after the token. -/
def stop (t : Token) : Nat := t.start + byteLength t.text.toList

/-- The range of the token, its trivia excluded. -/
def range (t : Token) : TextRange := ⟨t.start, byteLength t.text.toList⟩

/-- Whether the token is the punctuation character `c`. -/
def isPunct (t : Token) (c : Char) : Bool := t.kind == .punct c

/-- Whether the token is one of several punctuation characters. -/
def isPunctOf (t : Token) (cs : List Char) : Bool :=
  match t.kind with
  | .punct c => cs.contains c
  | _ => false

/-- Whether the token is a name. -/
def isIdentifier (t : Token) : Bool := t.kind == .identifier

/-- Whether the token is the name `word`. -/
def isWord (t : Token) (word : String) : Bool := t.isIdentifier && t.text == word

/-- Whether the token is one of several names. -/
def isWordOf (t : Token) (words : List String) : Bool := t.isIdentifier && words.contains t.text

/-- Whether the token ends the text. -/
def isEnd (t : Token) : Bool := t.kind == .endOfText

/-- Whether a line breaks between the token before this one and this one. -/
def breaksLine (t : Token) : Bool := t.trivia.toList.contains '\n'

end Token

end TypeTest
