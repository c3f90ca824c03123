/-!
# What a syntax node looks like

A host, such as a parser or an editor, has syntax trees of its own. The search
for tests reads them through one type: `Shape` names the few kinds of node that
tests are written with, and `other` stands for all the rest. The parameter `ν` is
whatever the host uses to refer to a node.
-/

namespace TypeTest

/-- **What a node looks like**, as far as finding tests needs to know. -/
inductive Shape (ν : Type) where
  /-- A function applied to arguments, with the type arguments it is given. -/
  | call (callee : ν) (typeArguments arguments : List ν)
  | identifier (name : String)
  /-- A string, or a template without substitutions, escapes resolved. -/
  | stringLiteral (value : String)
  /-- An object and the name of one of its members. -/
  | propertyAccess (object : ν) (name : String)
  /-- A function of any kind. The body is a block or the returned expression. -/
  | functionLike (body : Option ν)
  | arrayLiteral (elements : List ν)
  | objectLiteral (properties : List ν)
  /-- A named member of an object literal with its value. -/
  | propertyAssignment (name : String) (initializer : ν)
  | other
  deriving DecidableEq, Repr, Inhabited

namespace Shape

variable {ν : Type}

/-- Whether a node is a call. -/
def isCall : Shape ν → Bool
  | .call .. => true
  | _ => false

/-- Whether a node is a function, with or without a body. -/
def isFunctionLike : Shape ν → Bool
  | .functionLike _ => true
  | _ => false

/-- The body of a function that has one. -/
def body? : Shape ν → Option ν
  | .functionLike body => body
  | _ => none

/-- The nodes that a shape refers to, in source order. -/
def parts : Shape ν → List ν
  | .call callee typeArguments arguments => callee :: typeArguments ++ arguments
  | .propertyAccess object _ => [object]
  | .functionLike body => body.toList
  | .arrayLiteral elements => elements
  | .objectLiteral properties => properties
  | .propertyAssignment _ initializer => [initializer]
  | _ => []

/-- The same shape over other references to nodes. -/
def map {μ : Type} (f : ν → μ) : Shape ν → Shape μ
  | .call callee typeArguments arguments =>
    .call (f callee) (typeArguments.map f) (arguments.map f)
  | .identifier name => .identifier name
  | .stringLiteral value => .stringLiteral value
  | .propertyAccess object name => .propertyAccess (f object) name
  | .functionLike body => .functionLike (body.map f)
  | .arrayLiteral elements => .arrayLiteral (elements.map f)
  | .objectLiteral properties => .objectLiteral (properties.map f)
  | .propertyAssignment name initializer => .propertyAssignment name (f initializer)
  | .other => .other

@[simp] theorem isCall_map {μ : Type} (f : ν → μ) (s : Shape ν) : (s.map f).isCall = s.isCall := by
  cases s <;> rfl

@[simp] theorem isFunctionLike_map {μ : Type} (f : ν → μ) (s : Shape ν) :
    (s.map f).isFunctionLike = s.isFunctionLike := by
  cases s <;> rfl

@[simp] theorem body?_map {μ : Type} (f : ν → μ) (s : Shape ν) :
    (s.map f).body? = s.body?.map f := by
  cases s <;> rfl

theorem parts_map {μ : Type} (f : ν → μ) (s : Shape ν) : (s.map f).parts = s.parts.map f := by
  cases s <;> simp [map, parts, Option.toList_map]

/-- The body of a function is among the nodes that its shape refers to. -/
theorem mem_parts_of_body? {s : Shape ν} {b : ν} (h : s.body? = some b) : b ∈ s.parts := by
  cases s with
  | functionLike body =>
    obtain rfl : body = some b := h
    exact List.mem_singleton_self b
  | _ => cases h

end Shape

end TypeTest
