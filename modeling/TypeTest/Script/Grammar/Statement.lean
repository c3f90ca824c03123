import TypeTest.Script.Grammar.Expression

/-!
# Statements and scripts

A script is a list of statements. Semicolons separate statements and are needed
nowhere: a statement ends where it can go no further. `within` closes the
recursion between expressions and blocks: each level of nesting uses one of a
limited number of levels, and an expression or a block inside the last of them is
refused.
-/

namespace TypeTest.Parser

/-- The words that start a declaration of variables. -/
def variableWords : List String := ["const", "let", "var"]

/-- A declaration that imports: everything up to the module it names. -/
def importDeclaration (start : Nat) : Parser Node := do
  let _ ← advance
  let _ ← repeatWhile (fun found => do
    if found then return none
    else
      let token ← current
      if token.isEnd then refuse "module specifier"
      else
        let _ ← advance
        return some (match token.kind with
          | .string _ => true
          | _ => false)) false
  let _ ← accept ';'
  node start .importDeclaration

/-- The body of a function declaration, if there is one. One that is only `declared`
has none. -/
def functionBody (inner : Inner) (declared : Bool) : Parser (Option Node) := do
  let brace ← atPunct '\x7b'
  if !declared && brace then
    return some (← inner.block)
  else
    let _ ← accept ';'
    return none

/-- A function declaration, the cursor being on its first word. -/
def functionDeclaration (inner : Inner) (start : Nat) (declared : Bool) : Parser Node := do
  let _ ← advance
  let functionName ← name "function name"
  let typeNames ← typeParameters
  let found ← parameters inner
  let returned ← typeAfterColon (·.isPunctOf (if declared then [';'] else [';', '\x7b'])) true
  let body ← functionBody inner declared
  node start (.functionDeclaration functionName typeNames found returned body)

/-- A variable declaration, the cursor being on its first word. -/
def variableDeclaration (inner : Inner) (start : Nat) : Parser Node := do
  let _ ← advance
  let variableName ← name "variable name"
  let annotated ← typeAfterColon (·.isPunctOf [';', '=']) true
  let initial ← initialValue inner
  let _ ← accept ';'
  node start (.variableDeclaration variableName annotated initial)

/-- A type alias, the cursor being on its first word. -/
def typeAlias (start : Nat) : Parser Node := do
  let _ ← advance
  let _ ← name "type name"
  let _ ← typeParameters
  let _ ← expect '=' "'='"
  let aliased ← typeUntil (·.isPunct ';') true
  let _ ← accept ';'
  node start (.typeAlias aliased)

/-- An interface: its head is skipped, then its members. -/
def interfaceDeclaration (start : Nat) : Parser Node := do
  skipWhile fun c => !c.current.isPunct '\x7b' && !c.current.isEnd
  if ← atPunct '\x7b' then
    skipBracketed
    node start .skipped
  else
    refuse "'\x7b'"

/-- The expression of a return statement, which has to start on the same line. -/
def returnedValue (inner : Inner) : Parser (Option Node) := do
  let token ← current
  let broken ← lineBreaks
  if token.isPunctOf [';', '\x7d'] || token.isEnd || broken then return none
  else return some (← inner.expression)

/-- A return statement. -/
def returnStatement (inner : Inner) (start : Nat) : Parser Node := do
  let _ ← advance
  let expression ← returnedValue inner
  let _ ← accept ';'
  node start (.returnStatement expression)

/-- A declaration that only describes what exists elsewhere. -/
def ambientDeclaration (inner : Inner) (start : Nat) : Parser Node := do
  let _ ← advance
  let token ← current
  if token.isWord "function" then functionDeclaration inner start true
  else if token.isWordOf variableWords then variableDeclaration inner start
  else refuse "function or variable declaration"

/-- A statement after the words that export it. -/
def plainStatement (inner : Inner) (start : Nat) : Parser Node := do
  let token ← current
  let first ← kindAhead 1
  let second ← kindAhead 2
  if token.isWord "declare" then ambientDeclaration inner start
  else if token.isWord "function" && first == .identifier then
    functionDeclaration inner start false
  else if token.isWordOf variableWords then variableDeclaration inner start
  else if token.isWord "type" && first == .identifier &&
      (second == .punct '=' || second == .punct '<') then
    typeAlias start
  else if token.isWord "interface" && first == .identifier then interfaceDeclaration start
  else if token.isWord "return" then returnStatement inner start
  else if token.isPunct '\x7b' then inner.block
  else
    let expression ← inner.expression
    let _ ← accept ';'
    node start (.expressionStatement expression)

/-- Skips the words that export a statement. -/
def skipExports : Parser Unit :=
  repeatWhile (fun _ => do
    if ← atWord "export" then
      let _ ← advance
      skipIf (·.isWord "default")
      return some ()
    else
      return none) ()

/-- **A statement.** -/
def statement (inner : Inner) : Parser Node := do
  let start ← here
  if ← atWord "import" then importDeclaration start
  else
    skipExports
    plainStatement inner start

/-- The next statement, before those that were found already, unless the script ends
here or, in a block, a brace closes the block. -/
def statementStep (inner : Inner) (inBlock : Bool) (found : List Node) :
    Parser (Option (List Node)) := do
  skipWhile (·.current.isPunct ';')
  let token ← current
  if token.isEnd then
    if inBlock then refuse "'\x7d'" else return none
  else if inBlock && token.isPunct '\x7d' then return none
  else return some ((← statement inner) :: found)

/-- **Statements** up to the end of the text, or in a block up to its closing
brace, which is left to be taken. -/
def statements (inner : Inner) (inBlock : Bool) : Parser (List Node) := do
  let found ← repeatWhile (statementStep inner inBlock) []
  return found.reverse

/-- A block in braces. -/
def block (inner : Inner) : Parser Node := do
  let opening ← expect '\x7b' "'\x7b'"
  let found ← statements inner true
  let _ ← expect '\x7d' "'\x7d'"
  node opening.start (.block found)

/-! ## Nesting -/

/-- How many levels of expressions and blocks a script may nest. -/
def maxNesting : Nat := 256

/-- **The parsers for what is nested**, with `levels` levels left to use. -/
def within : Nat → Inner
  | 0 => { expression := fail .tooDeeplyNested, block := fail .tooDeeplyNested }
  | levels + 1 =>
    { expression := operation (within levels), block := block (within levels) }

@[simp] theorem within_succ_expression (levels : Nat) :
    (within (levels + 1)).expression = operation (within levels) := rfl

@[simp] theorem within_succ_block (levels : Nat) :
    (within (levels + 1)).block = block (within levels) := rfl

/-- The statements of a script. -/
def script : Parser (List Node) := statements (within maxNesting) false

end TypeTest.Parser
