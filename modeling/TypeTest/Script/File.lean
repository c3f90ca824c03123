import TypeTest.Host.File
import TypeTest.Script.Grammar.Statement
import TypeTest.Script.Token.Scan

/-!
# Parsed scripts

`ScriptFile.parse` is the whole way from a text to a syntax tree: tokens, then
statements, under a root that covers the text. Seen by a host, a node is a
reference that carries the number of the file it belongs to; a file answers for
its own nodes only, and shows nothing of a foreign one.
-/

namespace TypeTest

/-- The syntax tree of a text. -/
def parseTree (text : String) : Except SyntaxFault Node :=
  match tokenize text with
  | .error fault => .error fault
  | .ok tokens =>
    match Parser.script (.ofTokens tokens) with
    | .error fault => .error fault
    | .ok (statements, c) =>
      .ok (c.newNode (.sourceFile statements) ⟨0, byteLength text.toList⟩)

/-- **A script that was parsed.** There is none with any other tree than that of its
text. -/
structure ScriptFile where
  name : String
  text : String
  root : Node
  /-- The root is what the text is parsed to. -/
  parsed : parseTree text = .ok root

/-- **Parses a script.** -/
def ScriptFile.parse (name text : String) : Except ScriptError ScriptFile :=
  match h : parseTree text with
  | .ok root => .ok ⟨name, text, root, h⟩
  | .error fault => .error (.ofFault (some name) text fault)

theorem ScriptFile.parse_of_ok {name text : String} {root : Node}
    (h : parseTree text = .ok root) : ScriptFile.parse name text = .ok ⟨name, text, root, h⟩ := by
  unfold ScriptFile.parse
  split
  · rename_i found hfound
    cases hfound.symm.trans h
    rfl
  · rename_i fault hfault
    cases hfault.symm.trans h

theorem ScriptFile.parse_of_error {name text : String} {fault : SyntaxFault}
    (h : parseTree text = .error fault) :
    ScriptFile.parse name text = .error (.ofFault (some name) text fault) := by
  unfold ScriptFile.parse
  split
  · rename_i found hfound
    cases hfound.symm.trans h
  · rename_i found hfound
    cases hfound.symm.trans h
    rfl

/-- **A node of a file among several**, the files being numbered. -/
structure NodeRef where
  file : Nat
  node : Node

namespace ScriptFile

/-- The statements of a script outside of blocks. -/
def statements (file : ScriptFile) : List Node := file.root.children

/-- **All nodes of a script**, each before its parts, collected by a loop over a stack. -/
def nodes (file : ScriptFile) : List Node := Node.traversal.loop ([·]) [file.root]

theorem nodes_eq (file : ScriptFile) : file.nodes = file.root.descendants :=
  (Node.traversal.loop_singleton _ _).trans (List.flatMap_singleton' _)

theorem mem_nodes {file : ScriptFile} {n : Node} : n ∈ file.nodes ↔ n ∈ file.root.descendants := by
  rw [nodes_eq]

/-- The children of a node as seen by file number `number`. -/
def childrenIn (number : Nat) (r : NodeRef) : List NodeRef :=
  if r.file = number then r.node.children.map (⟨number, ·⟩) else []

/-- The shape of a node as seen by file number `number`. -/
def shapeIn (number : Nat) (r : NodeRef) : Shape NodeRef :=
  if r.file = number then r.node.shape.map (⟨number, ·⟩) else .other

/-- The range of a node as seen by file number `number`. -/
def rangeIn (number : Nat) (r : NodeRef) : TextRange :=
  if r.file = number then r.node.range else ⟨0, 0⟩

/-- What lies beneath a node of a script is smaller than the node. -/
theorem sizeOf_lt_of_beneath {number : Nat} {c n : NodeRef}
    (h : Beneath (childrenIn number) (shapeIn number) c n) : sizeOf c.node < sizeOf n.node := by
  cases h with
  | child hc =>
    unfold childrenIn at hc
    split at hc
    · obtain ⟨m, hm, rfl⟩ := List.mem_map.1 hc
      exact Node.sizeOf_lt_of_mem_children hm
    · simp at hc
  | @body callee f types args hn hf hb =>
    unfold shapeIn at hn
    split at hn
    · rename_i hfile
      cases hs : n.node.shape with
      | call callee' types' args' =>
        simp only [hs, Shape.map, Shape.call.injEq] at hn
        obtain ⟨_, _, rfl⟩ := hn
        obtain ⟨g, hg, rfl⟩ := List.mem_map.1 hf
        simp only [shapeIn, if_true, Shape.body?_map, Option.map_eq_some_iff] at hb
        obtain ⟨b, hb, rfl⟩ := hb
        have hg' : g ∈ n.node.children := Form.mem_children_of_call hs hg
        have hb' : b ∈ g.children := Form.mem_children_of_body? hb
        exact Nat.lt_trans (Node.sizeOf_lt_of_mem_children hb')
          (Node.sizeOf_lt_of_mem_children hg')
      | _ => simp [hs, Shape.map] at hn
    · simp at hn

/-- **A script as a file of a host**, under the number `number`. -/
def toSource (file : ScriptFile) (number : Nat) : SourceFile NodeRef where
  name := file.name
  text := file.text
  root := ⟨number, file.root⟩
  children := childrenIn number
  shape := shapeIn number
  range := rangeIn number
  lineColumn := (LineIndex.ofText file.text.toList).lineColumn file.text.toList
  wellFounded :=
    Subrelation.wf sizeOf_lt_of_beneath (measure fun r : NodeRef => sizeOf r.node).wf

end ScriptFile

end TypeTest
