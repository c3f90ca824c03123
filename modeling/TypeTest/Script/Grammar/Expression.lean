import TypeTest.Script.Grammar.TypeText

/-!
# Expressions

Expressions are read for the calls, names, literals and functions in them.
Operators have no precedence: an expression with operators is the list of its
operands. What nests, the expressions and blocks inside an expression, is read by
the parsers in `Inner`, which the caller supplies; so every parser here is defined
without recursion, and how deep nesting may go is decided in one place.
-/

namespace TypeTest.Parser

/-- **The parsers for what is nested** inside an expression or a statement. -/
structure Inner where
  expression : Parser Node
  block : Parser Node

/-! ## Lists and functions -/

/-- An element of a list: an expression, or one that is spread. -/
def element (inner : Inner) : Parser Node := do
  let token ← current
  if token.kind == .ellipsis then
    let _ ← advance
    node token.start (.spread (← inner.expression))
  else
    inner.expression

/-- The name of a parameter. One that is taken apart has the empty name. -/
def parameterName : Parser String := do
  let token ← current
  if token.isPunctOf ['\x7b', '['] then
    skipBracketed
    return ""
  else
    name "parameter name"

/-- The value after an equals sign, if there is one. -/
def initialValue (inner : Inner) : Parser (Option Node) := do
  if ← accept '=' then return some (← inner.expression) else return none

/-- A parameter of a function. -/
def parameter (inner : Inner) : Parser Node := do
  let start ← here
  skipIf (·.kind == .ellipsis)
  let own ← parameterName
  let _ ← accept '?'
  let annotated ← typeAfterColon (·.isPunctOf [',', ')', '=']) false
  let initial ← initialValue inner
  node start (.parameter own annotated initial)

/-- The parameters of a function in parentheses. -/
def parameters (inner : Inner) : Parser (List Node) := do
  let _ ← expect '(' "'('"
  let found ← commaList ')' (parameter inner)
  let _ ← expect ')' "')'"
  return found

/-- The rest of a function from its parameters on, with a block for a body. -/
def functionRest (inner : Inner) (start : Nat) : Parser Node := do
  let found ← parameters inner
  let returned ← typeAfterColon (·.isPunct '\x7b') false
  let body ← inner.block
  node start (.function found returned body)

/-- A function expression, whose own name is of no interest. -/
def functionExpression (inner : Inner) : Parser Node := do
  let start ← here
  let _ ← advance
  skipIf (·.isIdentifier)
  functionRest inner start

/-- The parameters of an arrow function: a name alone, or a list. -/
def arrowParameters (inner : Inner) : Parser (List Node) := do
  let token ← current
  if token.isIdentifier then
    let _ ← advance
    return [← store (.parameter token.text none none) token.range]
  else
    parameters inner

/-- The body of an arrow function: a block if a brace follows the arrow. -/
def arrowBody (inner : Inner) : Parser Node := do
  if ← atPunct '\x7b' then inner.block else inner.expression

/-- An arrow function. -/
def arrowFunction (inner : Inner) : Parser Node := do
  let start ← here
  let found ← arrowParameters inner
  let returned ← typeAfterColon (·.kind == .arrow) false
  let token ← current
  if token.kind == .arrow then
    let _ ← advance
    let body ← arrowBody inner
    node start (.function found returned body)
  else
    refuse "'=>'"

/-- Whether the tokens from an opening parenthesis on, inside `depth` brackets,
are the parameters of an arrow function: the bracket that closes the first one is
followed by an arrow or by a colon. -/
def arrowAhead (depth : Nat) : List Token → Bool
  | [] => false
  | t :: ts =>
    if t.isPunctOf openers then arrowAhead (depth + 1) ts
    else if t.isPunctOf closers then
      if depth ≤ 1 then
        match ts with
        | [] => false
        | u :: _ => u.kind == .arrow || u.isPunct ':'
      else arrowAhead (depth - 1) ts
    else if t.isEnd then false
    else arrowAhead depth ts

theorem arrowAhead_cons (depth : Nat) (t : Token) (ts : List Token) :
    arrowAhead depth (t :: ts) =
      if t.isPunctOf openers then arrowAhead (depth + 1) ts
      else if t.isPunctOf closers then
        if depth ≤ 1 then
          match ts with
          | [] => false
          | u :: _ => u.kind == .arrow || u.isPunct ':'
        else arrowAhead (depth - 1) ts
      else if t.isEnd then false
      else arrowAhead depth ts := rfl

/-- Whether the parenthesis at the cursor opens the parameters of an arrow
function. -/
def atArrowFunction : Parser Bool := fun c => .ok (arrowAhead 0 (c.current :: c.rest), c)

/-! ## Literals -/

/-- The value of a token that can name a property. -/
def propertyName (t : Token) : Option String :=
  match t.kind with
  | .identifier => some t.text
  | .number => some t.text
  | .string value => some value
  | _ => none

/-- A member of an object literal. -/
def property (inner : Inner) : Parser Node := do
  let start ← here
  let token ← current
  if token.kind == .ellipsis then element inner
  else
    match propertyName token with
    | none => refuse "property name"
    | some key =>
      let _ ← advance
      if ← accept ':' then
        node start (.propertyAssignment key (← inner.expression))
      else if ← atPunct '(' then
        let member ← functionRest inner (← here)
        node start (.method member)
      else
        node start .shorthandProperty

/-- An object literal. -/
def objectLiteral (inner : Inner) : Parser Node := do
  let opening ← expect '\x7b' "'\x7b'"
  let properties ← commaList '\x7d' (property inner)
  let _ ← expect '\x7d' "'\x7d'"
  node opening.start (.objectLiteral properties)

/-- An array literal. -/
def arrayLiteral (inner : Inner) : Parser Node := do
  let start ← here
  let _ ← advance
  let elements ← commaList ']' (element inner)
  let _ ← expect ']' "']'"
  node start (.arrayLiteral elements)

/-- An expression in parentheses. -/
def parenthesized (inner : Inner) : Parser Node := do
  let start ← here
  let _ ← advance
  let expression ← inner.expression
  let _ ← expect ')' "')'"
  node start (.parenthesized expression)

/-! ## Primary expressions and what follows them -/

/-- Takes the current token as a node that covers it. -/
def leaf (form : Form Node) : Parser Node := do
  let token ← advance
  store form token.range

/-- A primary expression. -/
def plainPrimary (inner : Inner) : Parser Node := do
  let token ← current
  match token.kind with
  | .identifier =>
    if token.text == "function" then functionExpression inner
    else if (← kindAhead 1) == .arrow then arrowFunction inner
    else leaf (.identifier token.text)
  | .string value => leaf (.stringLiteral value)
  | .template value substitutions =>
    leaf (if substitutions then .templateLiteral else .stringLiteral value)
  | .number => leaf (.numericLiteral token.text)
  | .punct '(' => if ← atArrowFunction then arrowFunction inner else parenthesized inner
  | .punct '[' => arrayLiteral inner
  | .punct '\x7b' => objectLiteral inner
  | _ => refuse "expression"

/-- Whether the cursor is on the word before an asynchronous function. -/
def atAsync (c : Cursor) : Bool :=
  c.current.isWord "async" &&
    (c.kindAhead 1 == .punct '(' ||
      (c.kindAhead 1 == .identifier && c.kindAhead 2 == .arrow))

/-- A primary expression; the word before an asynchronous function is skipped. -/
def primary (inner : Inner) : Parser Node := do
  if atAsync (← get) then
    let _ ← advance
    plainPrimary inner
  else
    plainPrimary inner

/-- The arguments of a call in parentheses. -/
def arguments (inner : Inner) : Parser (List Node) := do
  let _ ← expect '(' "'('"
  let found ← commaList ')' (element inner)
  let _ ← expect ')' "')'"
  return found

/-- The member after a dot, or after a question mark and a dot. -/
def memberAccess (start : Nat) (expression : Node) : Parser Node := do
  skipIf (·.isPunct '?')
  let _ ← advance
  let member ← name "property name"
  node start (.propertyAccess expression member)

/-- The index in brackets. -/
def indexed (inner : Inner) (start : Nat) (expression : Node) : Parser Node := do
  let _ ← advance
  let index ← inner.expression
  let _ ← expect ']' "']'"
  node start (.operands [expression, index])

/-- The arguments of a call, its type arguments being read already. -/
def called (inner : Inner) (start : Nat) (expression : Node) (types : List Node) :
    Parser Node := do
  let found ← arguments inner
  node start (.call expression types found)

/-- What follows a primary expression that starts at `start`: it gives the
expression extended by a member access, a call or an index, or the same
expression after a word or mark that changes only its type. -/
def postfixStep (inner : Inner) (start : Nat) (expression : Node) : Parser (Option Node) := do
  let token ← current
  let following ← kindAhead 1
  let broken ← lineBreaks
  if token.isPunct '.' || (token.isPunct '?' && following == .punct '.') then
    return some (← memberAccess start expression)
  else if token.isPunct '(' then
    return some (← called inner start expression [])
  else if token.isPunct '<' then
    match ← typeArguments with
    | none => return none
    | some types => return some (← called inner start expression types)
  else if token.isPunct '[' && !broken then
    return some (← indexed inner start expression)
  else if token.isPunct '!' && following != .punct '=' then
    let _ ← advance
    return some expression
  else if token.isWordOf ["as", "satisfies"] then
    let _ ← advance
    let _ ← typeUntil (·.isPunctOf [';', ',']) true
    return some expression
  else
    return none

/-- A primary expression with all that follows it. -/
def postfixed (inner : Inner) : Parser Node := do
  let start ← here
  let first ← primary inner
  repeatWhile (postfixStep inner start) first

/-! ## Operators -/

/-- Whether the cursor is on an operator that stands before its operand. A word
before an arrow is a parameter instead. -/
def atUnaryOperator (c : Cursor) : Bool :=
  c.current.isPunctOf ['!', '-', '+', '~'] ||
    (c.current.isWordOf ["typeof", "void", "await", "new", "delete"] && c.kindAhead 1 != .arrow)

/-- An operand: operators before it are skipped. -/
def operand (inner : Inner) : Parser Node := do
  skipWhile atUnaryOperator
  postfixed inner

/-- Whether the cursor is on an operator between two operands. -/
def atOperator (c : Cursor) : Bool :=
  c.current.isPunctOf ['+', '-', '*', '/', '%', '<', '>', '=', '!', '&', '|', '^', '?'] ||
    c.current.isWordOf ["instanceof", "in"]

/-- The operands so far, last first, and how many conditionals wait for their
colon. -/
structure Operands where
  found : List Node
  conditionals : Nat

/-- An operator and the operand after it, if there is an operator. -/
def operatorStep (inner : Inner) (s : Operands) : Parser (Option Operands) := do
  let token ← current
  let following ← kindAhead 1
  if token.isPunct ':' && 0 < s.conditionals then
    let _ ← advance
    return some ⟨(← operand inner) :: s.found, s.conditionals - 1⟩
  else if token.isPunct '?' && following != .punct '?' then
    let _ ← advance
    return some ⟨(← operand inner) :: s.found, s.conditionals + 1⟩
  else if atOperator (← get) then
    skipWhile atOperator
    return some ⟨(← operand inner) :: s.found, s.conditionals⟩
  else
    return none

/-- **An expression**: operands with operators between them. A single operand
stands for itself. -/
def operation (inner : Inner) : Parser Node := do
  let start ← here
  let first ← operand inner
  let s ← repeatWhile (operatorStep inner) ⟨[first], 0⟩
  match s.found with
  | [only] => return only
  | found => node start (.operands found.reverse)

end TypeTest.Parser
