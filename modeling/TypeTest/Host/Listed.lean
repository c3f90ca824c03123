import TypeTest.Host.File
import TypeTest.TypeText.Arguments

/-!
# Hosts given as data

A host can be given as a list of nodes that refer to each other by their place in
the list, with what is known about the type of each. Nothing keeps such references
from running in a circle, and yet a file has to promise that reading it ends. So a
reference also says how far it may still lead: what a node refers to leads less far
than the node, and a reference that leads no further shows nothing.

A reading that ends by itself never comes back to a node in the same role. There are
three roles (outside of a group, inside of one, inside of a test), and from node to
node a reading takes at most two references. So the references that a file starts
with (`ListedFile.reach`) lead far enough for every such reading to see all nodes.
-/

namespace TypeTest

/-- **A node of a listed file**, referring to others by their place. -/
structure ListedNode where
  shape : Shape Nat
  /-- The children, if they are not simply the parts of the shape. -/
  listed : Option (List Nat)
  range : TextRange
  /-- What the node returns if it is a call, unless it resolves to nothing. -/
  returns : Option String
  /-- The type of the node. -/
  type : Option String

/-- **A reference to a node of a list.** -/
structure ListedRef where
  /-- The place of the node. -/
  place : Nat
  /-- How far the reference may lead. -/
  reach : Nat
  deriving DecidableEq, Repr

/-- **A file given as a list of nodes.** -/
structure ListedFile where
  name : String
  text : String
  root : Nat
  nodes : List ListedNode

namespace ListedFile

/-- The shape of the node at a place; outside of the list there is nothing. -/
def shapeAt (file : ListedFile) (i : Nat) : Shape Nat :=
  match file.nodes[i]? with
  | some n => n.shape
  | none => .other

/-- The children of the node at a place. -/
def childrenAt (file : ListedFile) (i : Nat) : List Nat :=
  match file.nodes[i]? with
  | some n => n.listed.getD n.shape.parts
  | none => []

/-- The shape of a node, as far as the reference leads. -/
def shape (file : ListedFile) (n : ListedRef) : Shape ListedRef :=
  match n.reach with
  | 0 => .other
  | reach + 1 => (file.shapeAt n.place).map (⟨·, reach⟩)

/-- The children of a node, as far as the reference leads. -/
def children (file : ListedFile) (n : ListedRef) : List ListedRef :=
  match n.reach with
  | 0 => []
  | reach + 1 => (file.childrenAt n.place).map (⟨·, reach⟩)

theorem reach_lt_of_mem_children {file : ListedFile} {c n : ListedRef}
    (h : c ∈ file.children n) : c.reach < n.reach := by
  unfold children at h
  split at h
  · simp at h
  · rename_i reach hn
    obtain ⟨i, -, rfl⟩ := List.mem_map.1 h
    rw [hn]
    exact Nat.lt_succ_self _

theorem reach_lt_of_shape_eq_call {file : ListedFile} {n callee f : ListedRef}
    {types arguments : List ListedRef} (h : file.shape n = .call callee types arguments)
    (hf : f ∈ arguments) : f.reach < n.reach := by
  unfold shape at h
  split at h
  · simp at h
  · rename_i reach hn
    cases hs : file.shapeAt n.place <;> rw [hs] at h <;> simp only [Shape.map, Shape.call.injEq,
      reduceCtorEq] at h
    obtain ⟨-, -, rfl⟩ := h
    obtain ⟨i, -, rfl⟩ := List.mem_map.1 hf
    rw [hn]
    exact Nat.lt_succ_self _

theorem reach_lt_of_body? {file : ListedFile} {f b : ListedRef}
    (h : (file.shape f).body? = some b) : b.reach < f.reach := by
  unfold shape at h
  split at h
  · simp [Shape.body?] at h
  · rename_i reach hf
    rw [Shape.body?_map] at h
    obtain ⟨i, -, rfl⟩ := Option.map_eq_some_iff.1 h
    rw [hf]
    exact Nat.lt_succ_self _

/-- What lies beneath a node leads less far. -/
theorem reach_lt_of_beneath {file : ListedFile} {c n : ListedRef}
    (h : Beneath file.children file.shape c n) : c.reach < n.reach := by
  cases h with
  | child hc => exact reach_lt_of_mem_children hc
  | body hn hf hb =>
    exact Nat.lt_trans (reach_lt_of_body? hb) (reach_lt_of_shape_eq_call hn hf)

/-- How far references lead at first: for every node as far as three roles with two
references each can use, and some more for the last of them. -/
def reach (file : ListedFile) : Nat := 8 * (file.nodes.length + 1)

/-- The reference to the node at a place. -/
def ref (file : ListedFile) (place : Nat) : ListedRef := ⟨place, file.reach⟩

/-- **A list of nodes as a file.** -/
def toSource (file : ListedFile) : SourceFile ListedRef where
  name := file.name
  text := file.text
  root := file.ref file.root
  children := file.children
  shape := file.shape
  range n := match file.nodes[n.place]? with
    | some node => node.range
    | none => ⟨0, 0⟩
  lineColumn := .ofOffset file.text.toList
  wellFounded := Subrelation.wf (fun h => reach_lt_of_beneath h) (measure ListedRef.reach).wf

/-- The type information in a list of nodes. -/
def oracle (file : ListedFile) : TypeOracle ListedRef where
  returnType n := (file.nodes[n.place]?).bind (·.returns)
  typeArgument n index :=
    match file.shapeAt n.place with
    | .call _ types _ => do (← file.nodes[← types[index]?]?).type
    | _ => none
  typeAt n := (file.nodes[n.place]?).bind (·.type)
  argumentOf type index := (TypeText.arguments type)[index]?

/-- The calls of a list, in the order of their places. -/
def calls (file : ListedFile) : List ListedRef :=
  ((List.range file.nodes.length).filter fun i => (file.shapeAt i).isCall).map file.ref

/-- A listed file as a program of its own. -/
def toHost (file : ListedFile) : HostProgram ListedRef := ⟨[file.toSource], file.oracle⟩

end ListedFile

end TypeTest
