import TypeTest.Script.Cursor

/-!
# Types

The parser takes a type as **raw text**: it counts brackets and stops, outside of
them, at a token that cannot belong to the type. Which tokens these are depends on
where the type stands, so every place names its own; a closing bracket that was
not opened ends any type. Where statements need no separator, a line break ends a
type too, unless the type visibly goes on over it.
-/

namespace TypeTest.Parser

/-- A type being read: how deep in brackets it is, and its tokens, last first. -/
structure TypeScan where
  depth : Nat
  taken : List Token

/-- The text of consecutive tokens, from the first token's own text on. -/
def spelling : List Token → String
  | [] => ""
  | t :: ts => ts.foldl (fun text u => text ++ u.trivia ++ u.text) t.text

/-- Whether a type goes on over the line break before the current token, like
`A |` or `| B`. -/
def typeGoesOn (c : Cursor) : Bool :=
  let after :=
    match c.previous with
    | some t =>
      t.kind == .arrow || t.isWordOf ["extends", "keyof"] ||
        t.isPunctOf ['|', '&', '=', ',', ':', '?', '<', '(', '[', '\x7b', '.']
    | none => false
  let before :=
    c.current.kind == .arrow || c.current.isWord "extends" ||
      c.current.isPunctOf ['|', '&', '?', ':', '.', '[']
  after || before

/-- Whether a type that was read up to `scan` ends before the current token. -/
def typeEnds (ends : Token → Bool) (lineBreaksEnd : Bool) (scan : TypeScan) (c : Cursor) : Bool :=
  c.current.isEnd ||
    (scan.depth == 0 &&
      (ends c.current || c.current.isPunctOf ('>' :: closers) ||
        (lineBreaksEnd && !scan.taken.isEmpty && c.breaksLine && !typeGoesOn c)))

/-- The bracket depth after a token of a type. Angle brackets count. -/
def typeDepth (depth : Nat) (t : Token) : Nat :=
  if t.isPunctOf ('<' :: openers) then depth + 1
  else if t.isPunctOf ('>' :: closers) then depth - 1
  else depth

/-- Takes the next token of a type, if the type does not end before it. -/
def typeStep (ends : Token → Bool) (lineBreaksEnd : Bool) (scan : TypeScan) :
    Parser (Option TypeScan) := fun c =>
  if typeEnds ends lineBreaksEnd scan c then .ok (none, c)
  else .ok (some ⟨typeDepth scan.depth c.current, c.current :: scan.taken⟩, c.next)

/-- **Reads a type** as raw text, up to a token that `ends` it. -/
def typeUntil (ends : Token → Bool) (lineBreaksEnd : Bool) : Parser Node := do
  let start ← here
  let scan ← repeatWhile (typeStep ends lineBreaksEnd) ⟨0, []⟩
  if scan.taken.isEmpty then refuse "type"
  else node start (.typeText (spelling scan.taken.reverse))

/-- A type after a colon, if there is a colon. -/
def typeAfterColon (ends : Token → Bool) (lineBreaksEnd : Bool) : Parser (Option Node) := do
  if ← accept ':' then return some (← typeUntil ends lineBreaksEnd) else return none

/-- The constraint and the default of a type parameter, which are skipped. -/
def skipConstraint : Parser Unit := do
  let token ← current
  if token.isPunctOf [',', '>'] then return ()
  else
    let _ ← typeUntil (·.isPunctOf [',', '>']) false
    return ()

/-- A type parameter: its name. -/
def typeParameter : Parser String := do
  let parameter ← name "type parameter"
  skipConstraint
  return parameter

/-- The names of the type parameters in angle brackets, or none without them. -/
def typeParameters : Parser (List String) := do
  if ← atPunct '<' then angleList typeParameter else return []

/-- **The type arguments of a call**: a list in angle brackets that a parenthesis
follows. Anything else at `<` is no list of type arguments and is left unread. -/
def typeArguments : Parser (Option (List Node)) :=
  attempt (·.isPunct '(') (angleList (typeUntil (·.isPunct ',') false))

end TypeTest.Parser
