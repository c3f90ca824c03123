import TypeTest.Host.Shape
import TypeTest.Text.Position
import TypeTest.Traversal

/-!
# The syntax tree of a script

A node is a **form**, the range of text it covers, and the place at which the parser
stored it. `Form α` lists the kinds of node with their parts, a part that is itself a
node being an `α`; the tree type `Node` ties that knot. Everything that does not depend
on what the parts are is defined on forms: their parts in source order
(`Form.children`), what a host sees of them (`Form.shape`). Everything else is a
recursion over `Node.children`, whose members are smaller than the node
(`Node.sizeOf_lt_of_mem_children`).

Types are not parsed. A type is a node that keeps the raw text it was written as.
-/

namespace TypeTest

/-- **The kinds of syntax node** over parts `α`. -/
inductive Form (α : Type) where
  /-- The root of a script. -/
  | sourceFile (statements : List α)
  | block (statements : List α)
  | expressionStatement (expression : α)
  | returnStatement (expression : Option α)
  | importDeclaration
  /-- A declaration of which nothing but the extent matters. -/
  | skipped
  | functionDeclaration (name : String) (typeParameters : List String) (parameters : List α)
      (returnType body : Option α)
  | variableDeclaration (name : String) (declaredType initializer : Option α)
  | typeAlias (aliased : α)
  /-- A parameter; one that is taken apart on the spot has the empty name. -/
  | parameter (name : String) (declaredType initializer : Option α)
  /-- A type, as its text. -/
  | typeText (text : String)
  | call (callee : α) (typeArguments arguments : List α)
  | identifier (name : String)
  /-- A string literal, or a template without substitutions. -/
  | stringLiteral (value : String)
  /-- A template with substitutions. -/
  | templateLiteral
  | numericLiteral (text : String)
  | propertyAccess (object : α) (name : String)
  | parenthesized (expression : α)
  /-- A function expression, an arrow function, or the function of a method. -/
  | function (parameters : List α) (returnType : Option α) (body : α)
  | arrayLiteral (elements : List α)
  | objectLiteral (properties : List α)
  | propertyAssignment (name : String) (initializer : α)
  /-- A member of an object literal that is a name alone. -/
  | shorthandProperty
  | method (member : α)
  | spread (expression : α)
  /-- The operands of operators, which are not kept themselves. -/
  | operands (parts : List α)
  deriving DecidableEq, Repr, Inhabited

namespace Form

variable {α β : Type}

/-- **The parts of a form** in source order. -/
def children : Form α → List α
  | .sourceFile statements => statements
  | .block statements => statements
  | .expressionStatement expression => [expression]
  | .returnStatement expression => expression.toList
  | .importDeclaration => []
  | .skipped => []
  | .functionDeclaration _ _ parameters returnType body =>
    parameters ++ returnType.toList ++ body.toList
  | .variableDeclaration _ declaredType initializer => declaredType.toList ++ initializer.toList
  | .typeAlias aliased => [aliased]
  | .parameter _ declaredType initializer => declaredType.toList ++ initializer.toList
  | .typeText _ => []
  | .call callee typeArguments arguments => callee :: typeArguments ++ arguments
  | .identifier _ => []
  | .stringLiteral _ => []
  | .templateLiteral => []
  | .numericLiteral _ => []
  | .propertyAccess object _ => [object]
  | .parenthesized expression => [expression]
  | .function parameters returnType body => parameters ++ returnType.toList ++ [body]
  | .arrayLiteral elements => elements
  | .objectLiteral properties => properties
  | .propertyAssignment _ initializer => [initializer]
  | .shorthandProperty => []
  | .method member => [member]
  | .spread expression => [expression]
  | .operands parts => parts

/-- **What a host sees of a form.** -/
def shape : Form α → Shape α
  | .call callee typeArguments arguments => .call callee typeArguments arguments
  | .identifier name => .identifier name
  | .stringLiteral value => .stringLiteral value
  | .propertyAccess object name => .propertyAccess object name
  | .function _ _ body => .functionLike (some body)
  | .functionDeclaration _ _ _ _ body => .functionLike body
  | .arrayLiteral elements => .arrayLiteral elements
  | .objectLiteral properties => .objectLiteral properties
  | .propertyAssignment name initializer => .propertyAssignment name initializer
  | _ => .other

/-- The same form over other parts. -/
def map (f : α → β) : Form α → Form β
  | .sourceFile statements => .sourceFile (statements.map f)
  | .block statements => .block (statements.map f)
  | .expressionStatement expression => .expressionStatement (f expression)
  | .returnStatement expression => .returnStatement (expression.map f)
  | .importDeclaration => .importDeclaration
  | .skipped => .skipped
  | .functionDeclaration name typeParameters parameters returnType body =>
    .functionDeclaration name typeParameters (parameters.map f) (returnType.map f) (body.map f)
  | .variableDeclaration name declaredType initializer =>
    .variableDeclaration name (declaredType.map f) (initializer.map f)
  | .typeAlias aliased => .typeAlias (f aliased)
  | .parameter name declaredType initializer =>
    .parameter name (declaredType.map f) (initializer.map f)
  | .typeText text => .typeText text
  | .call callee typeArguments arguments =>
    .call (f callee) (typeArguments.map f) (arguments.map f)
  | .identifier name => .identifier name
  | .stringLiteral value => .stringLiteral value
  | .templateLiteral => .templateLiteral
  | .numericLiteral text => .numericLiteral text
  | .propertyAccess object name => .propertyAccess (f object) name
  | .parenthesized expression => .parenthesized (f expression)
  | .function parameters returnType body =>
    .function (parameters.map f) (returnType.map f) (f body)
  | .arrayLiteral elements => .arrayLiteral (elements.map f)
  | .objectLiteral properties => .objectLiteral (properties.map f)
  | .propertyAssignment name initializer => .propertyAssignment name (f initializer)
  | .shorthandProperty => .shorthandProperty
  | .method member => .method (f member)
  | .spread expression => .spread (f expression)
  | .operands parts => .operands (parts.map f)

@[simp] theorem children_map (f : α → β) (form : Form α) :
    (form.map f).children = form.children.map f := by
  cases form <;> simp [map, children, Option.toList_map]

/-- The body of a function is one of its parts. -/
theorem mem_children_of_body? {form : Form α} {b : α} (h : form.shape.body? = some b) :
    b ∈ form.children := by
  cases form <;> simp_all [shape, Shape.body?, children]

/-- The arguments of a call are among its parts. -/
theorem mem_children_of_call {form : Form α} {callee a : α} {ts as : List α}
    (h : form.shape = .call callee ts as) (ha : a ∈ as) : a ∈ form.children := by
  cases form <;> simp_all [shape, children]

end Form

/-- **A node of a syntax tree.** The index tells nodes of a tree apart: it is the number
of nodes that were stored before this one. -/
inductive Node where
  | mk (form : Form Node) (range : TextRange) (index : Nat)
  deriving Inhabited

namespace Node

/-- What kind of node it is, with its parts. -/
def form : Node → Form Node
  | .mk form _ _ => form

/-- The range of text that a node covers. -/
def range : Node → TextRange
  | .mk _ range _ => range

/-- The place at which the parser stored a node. -/
def index : Node → Nat
  | .mk _ _ index => index

/-- The parts of a node in source order. -/
def children (n : Node) : List Node := n.form.children

/-- What a host sees of a node. -/
def shape (n : Node) : Shape Node := n.form.shape

@[simp] theorem form_mk (form : Form Node) (range : TextRange) (index : Nat) :
    (mk form range index).form = form := rfl

@[simp] theorem range_mk (form : Form Node) (range : TextRange) (index : Nat) :
    (mk form range index).range = range := rfl

@[simp] theorem children_mk (form : Form Node) (range : TextRange) (index : Nat) :
    (mk form range index).children = form.children := rfl

end Node

namespace Form

theorem sizeOf_lt_of_mem_toList {α : Type} [SizeOf α] {a : α} {o : Option α} (h : a ∈ o.toList) :
    sizeOf a < sizeOf o := by
  cases o with
  | none => simp at h
  | some b => simp at h; subst h; simp

/-- A part of a form is smaller than the form. -/
theorem sizeOf_lt_of_mem_children {α : Type} [SizeOf α] {a : α} {form : Form α}
    (h : a ∈ form.children) : sizeOf a < sizeOf form := by
  cases form <;> simp only [children, List.mem_append, List.mem_cons, List.not_mem_nil, or_false,
    List.cons_append] at h <;>
  (try simp only [sourceFile.sizeOf_spec, block.sizeOf_spec, expressionStatement.sizeOf_spec,
    returnStatement.sizeOf_spec, functionDeclaration.sizeOf_spec, variableDeclaration.sizeOf_spec,
    typeAlias.sizeOf_spec, parameter.sizeOf_spec, call.sizeOf_spec, propertyAccess.sizeOf_spec,
    parenthesized.sizeOf_spec, function.sizeOf_spec, arrayLiteral.sizeOf_spec,
    objectLiteral.sizeOf_spec, propertyAssignment.sizeOf_spec, method.sizeOf_spec,
    spread.sizeOf_spec, operands.sizeOf_spec]) <;>
  grind [→ List.sizeOf_lt_of_mem, → sizeOf_lt_of_mem_toList]

end Form

namespace Node

/-- **A part of a node is smaller than the node**, so recursion over parts ends. -/
theorem sizeOf_lt_of_mem_children {n c : Node} (h : c ∈ n.children) : sizeOf c < sizeOf n := by
  cases n with
  | mk form range index =>
    have : sizeOf c < sizeOf form := Form.sizeOf_lt_of_mem_children h
    simp only [mk.sizeOf_spec]
    omega

/-- **A node and all nodes below it**, each before its parts. -/
def descendants (n : Node) : List Node :=
  n :: n.children.attach.flatMap fun c => descendants c.1
termination_by sizeOf n
decreasing_by exact sizeOf_lt_of_mem_children c.2

theorem descendants_eq (n : Node) : n.descendants = n :: n.children.flatMap descendants := by
  rw [descendants, List.flatMap_subtype (fun _ _ => rfl), List.unattach_attach]

/-- The way through the nodes of a tree. -/
def traversal : Traversal Node where
  below := children
  preorder := descendants
  preorder_eq := descendants_eq

theorem mem_descendants_self (n : Node) : n ∈ n.descendants := by
  rw [descendants_eq]
  exact List.mem_cons_self

/-- The nodes of a tree, each with its depth below `depth`. -/
def outline (depth : Nat) (n : Node) : List (Nat × Node) :=
  (depth, n) :: n.children.attach.flatMap fun c => outline (depth + 1) c.1
termination_by sizeOf n
decreasing_by exact sizeOf_lt_of_mem_children c.2

end Node

end TypeTest
