import TypeTest.Script.Fault
import TypeTest.Script.Node
import TypeTest.Script.Token

/-!
# Reading tokens

A `Cursor` stands on a token of a list that ends with the end token: it knows the
token before it, the one it is on, and those that follow, and it carries the nodes
that were made on the way. A `Parser` moves a cursor or refuses the script. Three
things make parsers easy to reason about:

* the cursor never leaves the end token, so there is always a current token;
* a parser sees the text only through tokens, never by offset;
* all repetition is `repeatWhile`, which goes on only while tokens are consumed,
  so it ends on every list of tokens whatever it repeats.
-/

namespace TypeTest

/-- **A place in a list of tokens.** -/
structure Cursor where
  /-- The token before the current one, if there is one. -/
  previous : Option Token
  current : Token
  rest : List Token
  /-- The nodes stored so far, last first, those included that became part of no other
  node. -/
  stored : List Node

namespace Cursor

/-- The start of a list of tokens. -/
def ofTokens : List Token → Cursor
  | [] => ⟨none, ⟨.endOfText, "", "", 0⟩, [], []⟩
  | t :: ts => ⟨none, t, ts, []⟩

/-- How many tokens follow the current one. -/
def remaining (c : Cursor) : Nat := c.rest.length

/-- The cursor on the next token; the last token is never left. -/
def next (c : Cursor) : Cursor :=
  match c.rest with
  | [] => c
  | t :: ts => { c with previous := some c.current, current := t, rest := ts }

/-- The index of the next node that is stored. -/
def nextIndex (c : Cursor) : Nat := c.stored.length

/-- A node as it is stored next. -/
def newNode (c : Cursor) (form : Form Node) (range : TextRange) : Node :=
  .mk form range c.nextIndex

/-- The cursor with one more node stored. -/
def store (c : Cursor) (form : Form Node) (range : TextRange) : Cursor :=
  { c with stored := c.newNode form range :: c.stored }

/-- What the token `count` places after the current one is. -/
def kindAhead (c : Cursor) (count : Nat) : TokenKind :=
  match (c.current :: c.rest)[count]? with
  | some t => t.kind
  | none => .endOfText

/-- The offset just after the previous token. -/
def previousStop (c : Cursor) : Nat :=
  match c.previous with
  | some t => t.stop
  | none => 0

/-- Whether a line breaks between the previous token and the current one. -/
def breaksLine (c : Cursor) : Bool := c.previous.isSome && c.current.breaksLine

/-- The range from an offset to the end of the previous token. -/
def rangeFrom (c : Cursor) (start : Nat) : TextRange := ⟨start, c.previousStop - start⟩

@[simp] theorem remaining_next_le (c : Cursor) : c.next.remaining ≤ c.remaining := by
  unfold next remaining
  split <;> simp_all

@[simp] theorem stored_next (c : Cursor) : c.next.stored = c.stored := by
  unfold next
  split <;> rfl

theorem remaining_next (c : Cursor) (h : 0 < c.remaining) :
    c.next.remaining + 1 = c.remaining := by
  unfold next remaining at *
  split <;> simp_all

end Cursor

/-- **A parser**: it reads tokens from a cursor, or refuses the script. -/
abbrev Parser (α : Type) := StateT Cursor (Except SyntaxFault) α

namespace Parser

variable {α σ : Type}

/-! ## Single tokens -/

/-- Refuses the script at the current token. -/
def fail (cause : SyntaxCause) : Parser α := fun c => .error ⟨cause, c.current.start⟩

/-- Refuses the current token where `expected` has to stand; at the end of the
text what is wrong is that the text ends. -/
def refuse (expected : String) : Parser α := fun c =>
  if c.current.isEnd then fail .prematureEnd c
  else fail (.unexpectedToken c.current.text expected) c

/-- The current token. -/
def current : Parser Token := fun c => .ok (c.current, c)

/-- What the token `count` places ahead is. -/
def kindAhead (count : Nat) : Parser TokenKind := fun c => .ok (c.kindAhead count, c)

/-- The offset of the current token. -/
def here : Parser Nat := fun c => .ok (c.current.start, c)

/-- Whether a line breaks before the current token. -/
def lineBreaks : Parser Bool := fun c => .ok (c.breaksLine, c)

/-- **Takes the current token.** -/
def advance : Parser Token := fun c => .ok (c.current, c.next)

/-- Whether the current token is the punctuation character `p`. -/
def atPunct (p : Char) : Parser Bool := fun c => .ok (c.current.isPunct p, c)

/-- Whether the current token is the name `word`. -/
def atWord (word : String) : Parser Bool := fun c => .ok (c.current.isWord word, c)

/-- Takes the current token if it is the punctuation character `p`. -/
def accept (p : Char) : Parser Bool := do
  if ← atPunct p then
    let _ ← advance
    return true
  else
    return false

/-- Takes the punctuation character `p`, which has to stand here. -/
def expect (p : Char) (expected : String) : Parser Token := do
  if ← atPunct p then advance else refuse expected

/-- Takes a name, which has to stand here. -/
def name (expected : String) : Parser String := do
  let token ← current
  if token.isIdentifier then
    let _ ← advance
    return token.text
  else
    refuse expected

/-- Takes the current token if it satisfies `p`. -/
def skipIf (p : Token → Bool) : Parser Unit := do
  let token ← current
  if p token then
    let _ ← advance
    return ()
  else
    return ()

/-- **Stores a node** of the form `form` that covers `range`. -/
def store (form : Form Node) (range : TextRange) : Parser Node := fun c =>
  .ok (c.newNode form range, c.store form range)

/-- A node of the form `form` from the offset `start` up to the previous token. -/
def node (start : Nat) (form : Form Node) : Parser Node := fun c =>
  store form (c.rangeFrom start) c

/-! ## Repetition -/

/-- **Repeats `step` on a state while it gives a next one.** A step that consumes
no token ends the repetition, so it always ends; the steps of this library all
consume a token when they give a next state. -/
def repeatWhile (step : σ → Parser (Option σ)) (s : σ) : Parser σ := fun c =>
  match step s c with
  | .error fault => .error fault
  | .ok (none, c') => .ok (s, c')
  | .ok (some s', c') =>
    if _h : c'.remaining < c.remaining then repeatWhile step s' c' else .ok (s', c')
termination_by c => c.remaining

/-- The repetition goes on from a step that consumed a token. -/
theorem repeatWhile_of_lt {step : σ → Parser (Option σ)} {s s' : σ} {c c' : Cursor}
    (h : step s c = .ok (some s', c')) (hlt : c'.remaining < c.remaining) :
    repeatWhile step s c = repeatWhile step s' c' := by
  rw [repeatWhile]
  simp [h, hlt]

/-- The repetition ends where a step gives no next state. -/
theorem repeatWhile_of_none {step : σ → Parser (Option σ)} {s : σ} {c c' : Cursor}
    (h : step s c = .ok (none, c')) : repeatWhile step s c = .ok (s, c') := by
  rw [repeatWhile]
  simp [h]

/-- A fault of a step is a fault of the repetition. -/
theorem repeatWhile_of_error {step : σ → Parser (Option σ)} {s : σ} {c : Cursor}
    {fault : SyntaxFault} (h : step s c = .error fault) :
    repeatWhile step s c = .error fault := by
  rw [repeatWhile]
  simp [h]

/-- Takes tokens while they satisfy `p`. -/
def skipWhile (p : Cursor → Bool) : Parser Unit :=
  repeatWhile (fun _ c => if p c then .ok (some (), c.next) else .ok (none, c)) ()

/-- A list being read: its items, last first, and whether more may follow. -/
structure Listing (α : Type) where
  items : List α
  more : Bool

/-- An item of a list and the comma after it, if the list does not end here. -/
def commaStep (closer : Char) (item : Parser α) (l : Listing α) : Parser (Option (Listing α)) := do
  if !l.more || (← atPunct closer) then return none
  else
    let x ← item
    let more ← accept ','
    return some ⟨x :: l.items, more⟩

/-- **Items separated by commas**, up to the punctuation character `closer`,
which is left to be taken. A comma may follow the last item. -/
def commaList (closer : Char) (item : Parser α) : Parser (List α) := do
  let listing ← repeatWhile (commaStep closer item) ⟨[], true⟩
  return listing.items.reverse

/-- An item in angle brackets and the comma or the closing bracket after it, unless
the bracket was closed before. -/
def angleStep (item : Parser α) (l : Listing α) : Parser (Option (Listing α)) := do
  if !l.more then return none
  else
    let x ← item
    if ← accept '>' then return some ⟨x :: l.items, false⟩
    else
      let _ ← expect ',' "',' or '>'"
      return some ⟨x :: l.items, true⟩

/-- **Items in angle brackets**, separated by commas. There is at least one. -/
def angleList (item : Parser α) : Parser (List α) := do
  let _ ← expect '<' "'<'"
  let listing ← repeatWhile (angleStep item) ⟨[], true⟩
  return listing.items.reverse

/-- Runs a parser; if it refuses, or if what it gives is not followed by a token
that satisfies `follow`, nothing was read and nothing stored. -/
def attempt (follow : Token → Bool) (p : Parser α) : Parser (Option α) := fun c =>
  match p c with
  | .ok (x, c') => if follow c'.current then .ok (some x, c') else .ok (none, c)
  | .error _ => .ok (none, c)

/-! ## Brackets -/

/-- The brackets that open. -/
def openers : List Char := ['(', '[', '\x7b']

/-- The brackets that close. -/
def closers : List Char := [')', ']', '\x7d']

/-- Takes a token and counts how deep in brackets it leaves the cursor. -/
def bracketToken (depth : Nat) : Parser Nat := do
  let token ← current
  if token.isEnd then refuse "closing bracket"
  else
    let _ ← advance
    return if token.isPunctOf openers then depth + 1
      else if token.isPunctOf closers then depth - 1
      else depth

/-- **Skips a bracketed region** that starts at the current token. -/
def skipBracketed : Parser Unit := do
  let depth ← bracketToken 0
  let _ ← repeatWhile (fun depth => do
    if depth == 0 then return none else return some (← bracketToken depth)) depth

end Parser

end TypeTest
