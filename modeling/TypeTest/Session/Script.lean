import TypeTest.Script.Program
import TypeTest.Session.Editor

/-!
# The editor session of a program of scripts

The only thing that a session over scripts reports by itself is a call of a
function that is declared nowhere: neither at the top level of any script, nor as a
variable or a parameter anywhere in the same script.
-/

namespace TypeTest

/-- The words that look like called functions but are part of the language. -/
def calledKeywords : List String :=
  ["if", "for", "while", "switch", "catch", "super", "this", "typeof", "import", "require"]

/-- The name that a node declares inside a script, as a variable or a parameter. -/
def Node.localName? (n : Node) : Option String :=
  match n.form with
  | .variableDeclaration name _ _ => some name
  | .parameter name _ _ => some name
  | _ => none

/-- The callee of a call that is a plain name: the node and the name. -/
def Node.calledName? (n : Node) : Option (Node × String) :=
  match n.form with
  | .call callee _ _ =>
    match callee.form with
    | .identifier name => some (callee, name)
    | _ => none
  | _ => none

/-- The diagnostic on the use of a name that is not declared. -/
def undeclaredName (file : String) (callee : Node) (name : String) : Diagnostic :=
  { file := file, start := callee.range.start, length := callee.range.length, code := "2304",
    message := "Cannot find name '" ++ name ++ "'.", severity := .error }

namespace ScriptProgram

/-- **The calls of undeclared functions** in a script, in source order. -/
def undeclaredCalls (p : ScriptProgram) (file : ScriptFile) : List Diagnostic :=
  let locals := file.nodes.filterMap Node.localName?
  (file.nodes.filterMap Node.calledName?).filterMap fun (callee, name) =>
    if p.isDeclared name || locals.contains name || calledKeywords.contains name then none
    else some (undeclaredName file.name callee name)

/-- The diagnostics of the script with a name. -/
def diagnostics (p : ScriptProgram) (name : String) : List Diagnostic :=
  match p.file? name with
  | some (file, _) => p.undeclaredCalls file
  | none => []

/-- **The session over a program.** -/
def session (p : ScriptProgram) : EditorSession NodeRef where
  program := some p.toHost
  diagnostics := p.diagnostics
  notes _ := []

end ScriptProgram

/-- The session that has no program yet. -/
def sessionWithoutProgram : EditorSession NodeRef where
  program := none
  diagnostics _ := []
  notes _ := []

end TypeTest
