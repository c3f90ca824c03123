import TypeTest.Proofs.Printing.Types

/-!
# Expressions that are printed

The trees from which scripts are printed. They are **abstract syntax**: a node says what
it is and holds its parts, a word or literal holds the proof that its characters are
scanned as it, and a type is its lexemes. Not every tree is printed as it is meant: a
bare arrow function takes what follows it into its body, and a brace where a statement or
the body of an arrow function starts opens a block. `Printable` excludes exactly these.

An expression that is printed starts with its **first lexeme**, which tells the parser what
to read, and its brackets are balanced, so that the search for the arrow behind a
parenthesis passes over it.
-/

namespace TypeTest

/-! ## Words and literals -/

/-- The words that mean something to the parser where an expression or a statement stands. -/
def keywords : List String :=
  ["function", "async", "typeof", "void", "await", "new", "delete", "as", "satisfies",
    "instanceof", "in", "import", "export", "declare", "const", "let", "var", "type",
    "interface", "return"]

/-- **A word**: what names a member, a property or a parameter. -/
structure Word where
  text : String
  scans : (Lexeme.word text).Scans

/-- **A name**: a word that means nothing to the parser. -/
structure Name extends Word where
  free : text ∉ keywords

/-- A string literal: its value and how it is written. -/
structure StringLiteral where
  value : String
  text : String
  scans : Lexeme.Scans ⟨.string value, text⟩

/-- A number literal. -/
structure NumberLiteral where
  text : String
  scans : Lexeme.Scans ⟨.number, text⟩

/-- The key of a property. -/
inductive PropertyKey where
  | word (own : Word)
  | string (literal : StringLiteral)
  | number (literal : NumberLiteral)

/-- A printed word. -/
def Word.lexeme (w : Word) : Lexeme := .word w.text

/-- A printed string literal. -/
def StringLiteral.lexeme (s : StringLiteral) : Lexeme := ⟨.string s.value, s.text⟩

/-- A printed number. -/
def NumberLiteral.lexeme (n : NumberLiteral) : Lexeme := ⟨.number, n.text⟩

namespace PropertyKey

/-- A printed key. -/
def lexeme : PropertyKey → Lexeme
  | .word own => own.lexeme
  | .string literal => literal.lexeme
  | .number literal => literal.lexeme

/-- The property that a key names. -/
def value : PropertyKey → String
  | .word own => own.text
  | .string literal => literal.value
  | .number literal => literal.text

end PropertyKey

/-! ## Functions and expressions -/

/-- The type of a parameter: no comma, parenthesis or equals sign stands in it outside of
brackets. -/
abbrev ParameterType := TypeLexemes [',', ')', '=']

/-- A type argument: no comma stands in it outside of brackets. -/
abbrev TypeArgument := TypeLexemes [',']

/-- **A parameter** of a function. -/
structure Parameter where
  own : Word
  type : Option ParameterType

/-- What stands before the arrow of a function. -/
inductive ArrowHead where
  | bare (own : Name)
  | list (parameters : List Parameter)

/-- The parameters before an arrow. A name without parentheses is one without a type. -/
def ArrowHead.parameters : ArrowHead → List Parameter
  | .bare own => [⟨own.toWord, none⟩]
  | .list parameters => parameters

mutual

/-- **An expression.** The body of a function is a list of expressions, each of them a
statement. -/
inductive Expression where
  | name (own : Name)
  | string (literal : StringLiteral)
  | number (literal : NumberLiteral)
  | parenthesized (inner : Expression)
  | array (elements : List Expression)
  | object (properties : List Property)
  | member (base : Expression) (own : Word)
  | call (callee : Expression) (types : List TypeArgument) (arguments : List Expression)
  | function (own : Option Word) (parameters : List Parameter) (body : List Expression)
  | arrow (head : ArrowHead) (body : Expression)
  | arrowBlock (head : ArrowHead) (body : List Expression)

/-- A property of an object literal. -/
inductive Property where
  | assignment (key : PropertyKey) (value : Expression)
  | shorthand (own : Word)

end

namespace Expression

/-- **Induction on expressions**: a part may stand in a list or in a property. -/
@[elab_as_elim, induction_eliminator]
theorem induction {P : Expression → Prop} (name : ∀ own, P (.name own))
    (string : ∀ literal, P (.string literal)) (number : ∀ literal, P (.number literal))
    (parenthesized : ∀ inner, P inner → P (.parenthesized inner))
    (array : ∀ elements, (∀ e ∈ elements, P e) → P (.array elements))
    (object : ∀ properties, (∀ key value, .assignment key value ∈ properties → P value) →
      P (.object properties))
    (member : ∀ base own, P base → P (.member base own))
    (call : ∀ callee types arguments, P callee → (∀ e ∈ arguments, P e) →
      P (.call callee types arguments))
    (function : ∀ own parameters body, (∀ e ∈ body, P e) → P (.function own parameters body))
    (arrow : ∀ head body, P body → P (.arrow head body))
    (arrowBlock : ∀ head body, (∀ e ∈ body, P e) → P (.arrowBlock head body)) :
    ∀ e, P e := by
  -- a property or a list has it if all expressions in it have it
  refine @Expression.rec P (fun p => ∀ key value, p = .assignment key value → P value)
    (fun es => ∀ e ∈ es, P e) (fun ps => ∀ key value, .assignment key value ∈ ps → P value)
    name string number parenthesized array object member call function arrow arrowBlock
    ?_ ?_ ?_ ?_ ?_ ?_
  · rintro key value ih _ _ h
    cases h
    exact ih
  · rintro own _ _ h
    cases h
  · exact fun _ h => absurd h List.not_mem_nil
  · exact fun e es he hes => List.forall_mem_cons.mpr ⟨he, hes⟩
  · exact fun _ _ h => absurd h List.not_mem_nil
  · intro p ps hp hps key value h
    rcases List.mem_cons.mp h with h | h
    · exact hp key value h.symm
    · exact hps key value h

end Expression

/-! ## Printing -/

/-- Lexemes in brackets. -/
def inBrackets (o p : Char) (ls : List Lexeme) : List Lexeme := .mark o :: (ls ++ [.mark p])

theorem inBrackets_append (o p : Char) (ls rest : List Lexeme) :
    inBrackets o p ls ++ rest = .mark o :: (ls ++ .mark p :: rest) := by
  rw [inBrackets, List.cons_append, List.append_assoc]
  rfl

/-- **Printed statements**: a semicolon ends each of them. -/
def terminated : List (List Lexeme) → List Lexeme
  | [] => []
  | ls :: more => ls ++ .mark ';' :: terminated more

/-- A type after a colon, if there is one. -/
def annotationLexemes : Option ParameterType → List Lexeme
  | none => []
  | some type => .mark ':' :: type.lexemes

/-- A printed parameter. -/
def Parameter.lexemes (p : Parameter) : List Lexeme := p.own.lexeme :: annotationLexemes p.type

/-- Parameters in parentheses. -/
def parameterLexemes (parameters : List Parameter) : List Lexeme :=
  inBrackets '(' ')' (commas (parameters.map Parameter.lexemes))

/-- What is printed before an arrow. -/
def ArrowHead.lexemes : ArrowHead → List Lexeme
  | .bare own => [own.lexeme]
  | .list parameters => parameterLexemes parameters

/-- Type arguments in angle brackets, unless there are none. -/
def typeArgumentLexemes : List TypeArgument → List Lexeme
  | [] => []
  | types => inBrackets '<' '>' (commas (types.map TypeLexemes.lexemes))

mutual

/-- **A printed expression.** -/
def Expression.lexemes : Expression → List Lexeme
  | .name own => [own.lexeme]
  | .string literal => [literal.lexeme]
  | .number literal => [literal.lexeme]
  | .parenthesized inner => inBrackets '(' ')' inner.lexemes
  | .array elements => inBrackets '[' ']' (commas (lexemesOf elements))
  | .object properties => inBrackets '\x7b' '\x7d' (commas (propertyLexemes properties))
  | .member base own => base.lexemes ++ [.mark '.', own.lexeme]
  | .call callee types arguments =>
    callee.lexemes ++ (typeArgumentLexemes types
      ++ inBrackets '(' ')' (commas (lexemesOf arguments)))
  | .function own parameters body =>
    .word "function" :: (own.toList.map Word.lexeme
      ++ (parameterLexemes parameters ++ inBrackets '\x7b' '\x7d' (terminated (lexemesOf body))))
  | .arrow head body => head.lexemes ++ .arrow :: body.lexemes
  | .arrowBlock head body =>
    head.lexemes ++ .arrow :: inBrackets '\x7b' '\x7d' (terminated (lexemesOf body))

/-- Several printed expressions. -/
def lexemesOf : List Expression → List (List Lexeme)
  | [] => []
  | e :: es => e.lexemes :: lexemesOf es

/-- A printed property. -/
def Property.lexemes : Property → List Lexeme
  | .assignment key value => key.lexeme :: .mark ':' :: value.lexemes
  | .shorthand own => [own.lexeme]

/-- Several printed properties. -/
def propertyLexemes : List Property → List (List Lexeme)
  | [] => []
  | p :: ps => p.lexemes :: propertyLexemes ps

end

@[simp] theorem lexemesOf_eq_map (es : List Expression) :
    lexemesOf es = es.map Expression.lexemes := by
  induction es with
  | nil => rfl
  | cons e es ih => rw [lexemesOf, ih, List.map_cons]

@[simp] theorem propertyLexemes_eq_map (ps : List Property) :
    propertyLexemes ps = ps.map Property.lexemes := by
  induction ps with
  | nil => rfl
  | cons p ps ih => rw [propertyLexemes, ih, List.map_cons]

/-! ## Nesting -/

mutual

/-- **How many expressions and blocks are nested in each other**, the expression itself
included. What a member or a call is taken of stands on the same level. -/
def Expression.nesting : Expression → Nat
  | .name _ => 1
  | .string _ => 1
  | .number _ => 1
  | .parenthesized inner => inner.nesting + 1
  | .array elements => nestingOf elements + 1
  | .object properties => propertyNesting properties + 1
  | .member base _ => base.nesting
  | .call callee _ arguments => max callee.nesting (nestingOf arguments + 1)
  | .function _ _ body => nestingOf body + 2
  | .arrow _ body => body.nesting + 1
  | .arrowBlock _ body => nestingOf body + 2

/-- The deepest nesting in a list of expressions. -/
def nestingOf : List Expression → Nat
  | [] => 0
  | e :: es => max e.nesting (nestingOf es)

/-- The nesting in the value of a property. -/
def Property.nesting : Property → Nat
  | .assignment _ value => value.nesting
  | .shorthand _ => 0

/-- The deepest nesting in a list of properties. -/
def propertyNesting : List Property → Nat
  | [] => 0
  | p :: ps => max p.nesting (propertyNesting ps)

end

theorem nestingOf_le {es : List Expression} {n : Nat} :
    nestingOf es ≤ n ↔ ∀ e ∈ es, e.nesting ≤ n := by
  induction es with
  | nil => exact iff_of_true (Nat.zero_le _) (fun _ h => absurd h List.not_mem_nil)
  | cons e es ih => rw [nestingOf, Nat.max_le, List.forall_mem_cons, ih]

theorem propertyNesting_le {ps : List Property} {n : Nat} :
    propertyNesting ps ≤ n ↔ ∀ p ∈ ps, p.nesting ≤ n := by
  induction ps with
  | nil => exact iff_of_true (Nat.zero_le _) (fun _ h => absurd h List.not_mem_nil)
  | cons p ps ih => rw [propertyNesting, Nat.max_le, List.forall_mem_cons, ih]

theorem Expression.nesting_pos (e : Expression) : 0 < e.nesting := by
  induction e with
  | member base own ih => exact ih
  | call callee types arguments ih _ => exact Nat.lt_of_lt_of_le ih (Nat.le_max_left _ _)
  | _ => exact Nat.succ_pos _

/-! ## What can be printed -/

namespace Expression

/-- The lexeme an expression starts with. -/
def first : Expression → Lexeme
  | .name own => own.lexeme
  | .string literal => literal.lexeme
  | .number literal => literal.lexeme
  | .parenthesized _ => .mark '('
  | .array _ => .mark '['
  | .object _ => .mark '\x7b'
  | .member base _ => base.first
  | .call callee _ _ => callee.first
  | .function _ _ _ => .word "function"
  | .arrow (.bare own) _ => own.lexeme
  | .arrow (.list _) _ => .mark '('
  | .arrowBlock (.bare own) _ => own.lexeme
  | .arrowBlock (.list _) _ => .mark '('

/-- Whether an expression is an arrow function without parentheses around it. -/
def isArrow : Expression → Bool
  | .arrow _ _ => true
  | .arrowBlock _ _ => true
  | _ => false

/-- Whether an expression may stand as a statement. -/
def Stands (e : Expression) : Prop :=
  e.first.kind ≠ .punct '\x7b' ∧ e.first ≠ .word "function"

/-- **An expression that is printed as it is meant**: members and calls are not of bare
arrow functions, and neither statements nor the bodies of arrow functions start with a
brace, nor statements with the word for functions. -/
inductive Printable : Expression → Prop where
  | name {own : Name} : Printable (.name own)
  | string {literal : StringLiteral} : Printable (.string literal)
  | number {literal : NumberLiteral} : Printable (.number literal)
  | parenthesized {inner : Expression} : inner.Printable → Printable (.parenthesized inner)
  | array {elements : List Expression} : (∀ e ∈ elements, e.Printable) →
    Printable (.array elements)
  | object {properties : List Property} :
    (∀ key value, .assignment key value ∈ properties → value.Printable) →
    Printable (.object properties)
  | member {base : Expression} {own : Word} : base.Printable → base.isArrow = false →
    Printable (.member base own)
  | call {callee : Expression} {types : List TypeArgument} {arguments : List Expression} :
    callee.Printable → callee.isArrow = false → (∀ e ∈ arguments, e.Printable) →
    Printable (.call callee types arguments)
  | function {own : Option Word} {parameters : List Parameter} {body : List Expression} :
    (∀ e ∈ body, e.Printable) → (∀ e ∈ body, e.Stands) →
    Printable (.function own parameters body)
  | arrow {head : ArrowHead} {body : Expression} : body.Printable →
    body.first.kind ≠ .punct '\x7b' → Printable (.arrow head body)
  | arrowBlock {head : ArrowHead} {body : List Expression} :
    (∀ e ∈ body, e.Printable) → (∀ e ∈ body, e.Stands) → Printable (.arrowBlock head body)

end Expression

end TypeTest
