import TypeTest.Host.Shape
import TypeTest.Text.Position
import TypeTest.Traversal

/-!
# Files and type information of a host

A host gives access to its syntax trees through functions on references to
nodes, `ν`. What it has to promise is that reading a tree ends: going from a node
to its children, or from a call to the body of a function among its arguments,
cannot go on forever. That promise is the field `wellFounded`; the recursions over
a file, `descendants` here and the search for tests, rest on nothing else.
-/

namespace TypeTest

/-- **What lies beneath a node**: its children, and the bodies of the functions
that a call has for arguments. -/
inductive Beneath {ν : Type} (children : ν → List ν) (shape : ν → Shape ν) : ν → ν → Prop where
  | child {c n : ν} : c ∈ children n → Beneath children shape c n
  | body {b n callee f : ν} {types args : List ν} :
    shape n = .call callee types args → f ∈ args → (shape f).body? = some b →
    Beneath children shape b n

/-- **A parsed file** of a host. -/
structure SourceFile (ν : Type) where
  /-- The name of the file, as reports show it. -/
  name : String
  /-- The whole text of the file. -/
  text : String
  /-- The node that covers the file. -/
  root : ν
  /-- The children of a node in source order. -/
  children : ν → List ν
  shape : ν → Shape ν
  /-- The text a node covers, blanks and comments before it excluded. -/
  range : ν → TextRange
  /-- The line and column of an offset. -/
  lineColumn : Nat → LineColumn
  wellFounded : WellFounded (Beneath children shape)

namespace SourceFile

variable {ν : Type}

/-- Where a node stands, as reports show it. -/
def location (file : SourceFile ν) (n : ν) : Location :=
  let range := file.range n
  let position := file.lineColumn range.start
  ⟨range.start, range.length, position.line, position.column⟩

/-- **A node and all nodes below it**, each before its children. -/
def descendants (file : SourceFile ν) (n : ν) : List ν :=
  n :: (file.children n).attach.flatMap fun c => descendants file c.1
termination_by file.wellFounded.wrap n
decreasing_by exact .child c.2

theorem descendants_eq (file : SourceFile ν) (n : ν) :
    file.descendants n = n :: (file.children n).flatMap file.descendants := by
  rw [descendants, List.flatMap_subtype (fun _ _ => rfl), List.unattach_attach]

theorem mem_descendants_self (file : SourceFile ν) (n : ν) : n ∈ file.descendants n := by
  rw [descendants_eq]
  exact List.mem_cons_self

/-- The way through the nodes of a file. -/
def traversal (file : SourceFile ν) : Traversal ν where
  below := file.children
  preorder := file.descendants
  preorder_eq := file.descendants_eq

/-- **The calls among a node and the nodes below it**, collected by a loop over a stack. -/
def callsWithin (file : SourceFile ν) (n : ν) : List ν :=
  file.traversal.loop (fun m => [m].filter fun m => (file.shape m).isCall) [n]

theorem callsWithin_eq (file : SourceFile ν) (n : ν) :
    file.callsWithin n = (file.descendants n).filter fun m => (file.shape m).isCall := by
  rw [callsWithin, Traversal.loop_singleton]
  exact (List.filter_flatMap ..).symm.trans (congrArg _ (List.flatMap_singleton' _))

theorem mem_callsWithin {file : SourceFile ν} {m n : ν} :
    m ∈ file.callsWithin n ↔ m ∈ file.descendants n ∧ (file.shape m).isCall = true := by
  rw [callsWithin_eq, List.mem_filter]

end SourceFile

/-- **Type information** about nodes. A type is known by its text. -/
structure TypeOracle (ν : Type) where
  /-- What a call returns, if it resolves to a function. -/
  returnType : ν → Option String
  /-- The type argument a call is given at an index. -/
  typeArgument : ν → Nat → Option String
  /-- The type of an expression. -/
  typeAt : ν → Option String
  /-- The type argument at an index of a type that is an instance of a generic. -/
  argumentOf : String → Nat → Option String

/-- **A program of a host**: files and the type information they share. -/
structure HostProgram (ν : Type) where
  files : List (SourceFile ν)
  oracle : TypeOracle ν

/-- The first file with a name. -/
def HostProgram.file? {ν : Type} (program : HostProgram ν) (name : String) :
    Option (SourceFile ν) :=
  program.files.find? fun file => file.name == name

end TypeTest
