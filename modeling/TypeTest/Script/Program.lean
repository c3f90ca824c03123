import TypeTest.Script.Store
import TypeTest.Text.Escaped
import TypeTest.TypeText.Arguments
import TypeTest.TypeText.Substitute

/-!
# Programs of scripts

A program is a number of scripts that share their top-level declarations: where a
name is declared more than once, **the first declaration counts**. It grows by adding
a script at the end, and a script that is refused is answered with its error and with
the program that there is afterwards.

Types come from declarations alone, which are looked up in the tables of the program.
A call has the return type that the function of that name declares, with the type
arguments of the call put in for the type parameters. An expression has a type if its
meaning can be traced to a declared type, a call or a literal in a limited number of
hops.

The tables say nothing that the scripts do not say: what is looked up in them is what
is looked up in the lists of all declarations (`lookup_functions`, `lookup_values`), so
that everything about a program can be told from its scripts.
-/

namespace TypeTest

/-- **Scripts that share their top-level declarations**, numbered from zero, with the
tables of what they declare. -/
structure ScriptProgram where
  store : ScriptStore
  /-- The numbers are the places of the scripts, and the tables hold what they declare. -/
  wellFormed : store.WellFormed

/-- **What a call resolves to**: the function and what it returns to this call. -/
structure CallSignature where
  function : String
  returnType : String
  deriving DecidableEq, Repr

/-- The number of hops after which the type of an expression is given up. -/
def maxHops : Nat := 32

namespace Node

/-- The text of a node that is a type. -/
def typeText? (n : Node) : Option String :=
  match n.form with
  | .typeText text => some text
  | _ => none

/-- The name by which a callee refers to a function. -/
def calleeName? (n : Node) : Option String :=
  match n.form with
  | .identifier name => some name
  | .propertyAccess _ name => some name
  | _ => none

end Node

namespace ScriptProgram

/-- A program without scripts. -/
def empty : ScriptProgram := ⟨.empty, ScriptStore.wellFormed_empty⟩

/-- The scripts of a program, in the order in which they were added. -/
def files (p : ScriptProgram) : List ScriptFile := p.store.scripts.map NumberedScript.script

/-! ## Building a program -/

/-- **Parses a script and adds it**: the error if it is refused, and the program that
there is afterwards. -/
def addSource (p : ScriptProgram) (name text : String) :
    Except ScriptError Unit × ScriptProgram :=
  match (ScriptStore.addSource name text).run p.store, p.wellFormed.addSource name text with
  | .ok () store, h => (.ok (), ⟨store, h⟩)
  | .error e store, h => (.error e, ⟨store, h⟩)

/-- **Adds all given scripts**, up to the first one that is refused. -/
def withSources (p : ScriptProgram) : List (String × String) → Except ScriptError ScriptProgram
  | [] => .ok p
  | source :: sources =>
    match p.addSource source.1 source.2 with
    | (.ok (), p') => p'.withSources sources
    | (.error e, _) => .error e

/-- **Adds the given scripts** one after the other, whether they are refused or not. -/
def withReadable (p : ScriptProgram) (sources : List (String × String)) : ScriptProgram :=
  sources.foldl (fun p source => (p.addSource source.1 source.2).2) p

/-- The program of all given scripts, or the error of the first one refused. -/
def ofSources (sources : List (String × String)) : Except ScriptError ScriptProgram :=
  empty.withSources sources

/-- The program of those of the given scripts that are not refused. -/
def ofReadable (sources : List (String × String)) : ScriptProgram := empty.withReadable sources

/-- The program with one more script. -/
def push (p : ScriptProgram) (file : ScriptFile) : ScriptProgram :=
  ⟨p.store.push file, p.wellFormed.push file⟩

/-- The program of parsed scripts. -/
def ofFiles (files : List ScriptFile) : ScriptProgram := files.foldl push empty

@[simp] theorem files_push (p : ScriptProgram) (file : ScriptFile) :
    (p.push file).files = p.files ++ [file] := by
  show (_ ++ [_]).map _ = _
  rw [List.map_append]
  rfl

@[simp] theorem files_ofFiles (files : List ScriptFile) : (ofFiles files).files = files := by
  have hfold : ∀ p : ScriptProgram, (files.foldl push p).files = p.files ++ files := by
    induction files with
    | nil => exact fun p => (List.append_nil _).symm
    | cons file files ih =>
      intro p
      rw [List.foldl_cons, ih, files_push, List.append_assoc, List.singleton_append]
  exact hfold empty

section Added

variable {p : ScriptProgram} {name text : String}

/-- **A script that parses is added** at the end. -/
theorem addSource_of_ok {file : ScriptFile} (h : ScriptFile.parse name text = .ok file) :
    p.addSource name text = (.ok (), p.push file) := by
  unfold addSource
  split
  · rename_i store _ hrun _
    cases hrun.symm.trans (ScriptStore.run_addSource_of_ok h)
    rfl
  · rename_i e store _ hrun _
    cases hrun.symm.trans (ScriptStore.run_addSource_of_ok h)

/-- **A script that does not parse** is answered with its error, and the program is what it
was. -/
theorem addSource_of_error {e : ScriptError} (h : ScriptFile.parse name text = .error e) :
    p.addSource name text = (.error e, p) := by
  unfold addSource
  split
  · rename_i store _ hrun _
    cases hrun.symm.trans (ScriptStore.run_addSource_of_error h)
  · rename_i e store _ hrun _
    cases hrun.symm.trans (ScriptStore.run_addSource_of_error h)
    rfl

end Added

/-- The scripts with their numbers. -/
theorem scripts_store (p : ScriptProgram) :
    p.store.scripts = p.files.zipIdx.map fun (file, i) => ⟨i, file⟩ := by
  have hnumbers := p.wellFormed.numbered
  refine List.ext_getElem? fun i => ?_
  have hi := congrArg (·[i]?) hnumbers
  rw [files, List.getElem?_map, List.getElem?_zipIdx, List.getElem?_map]
  simp only [List.getElem?_map] at hi
  cases hs : p.store.scripts[i]? with
  | none => rfl
  | some s =>
    rw [hs, Option.map_some, List.getElem?_range (List.getElem?_eq_some_iff.mp hs).1] at hi
    rw [Option.map_some, Option.map_some, Option.map_some, Nat.zero_add, ← Option.some.inj hi]

/-- The first script with a name, and its number. -/
def file? (p : ScriptProgram) (name : String) : Option (ScriptFile × Nat) :=
  (p.store.scripts.find? fun s => s.script.name == name).map fun s => (s.script, s.number)

/-! ## Declarations -/

/-- The functions declared at the top level, in order. -/
def functions (p : ScriptProgram) : List (String × FunctionSignature) :=
  p.files.flatMap fun file => file.statements.filterMap Node.function?

/-- The variables declared at the top level with a type or a value, in order. -/
def values (p : ScriptProgram) : List (String × ValueSource) :=
  p.files.zipIdx.flatMap fun (file, i) => file.statements.filterMap (Node.value? i)

/-- **The table of functions says what the scripts declare.** -/
theorem lookup_functions (p : ScriptProgram) (name : String) :
    p.store.functions.lookup name = p.functions.lookup name := by
  rw [p.wellFormed.functions, functions, files, List.flatMap_map]
  rfl

/-- **The table of variables says what the scripts declare.** -/
theorem lookup_values (p : ScriptProgram) (name : String) :
    p.store.values.lookup name = p.values.lookup name := by
  rw [p.wellFormed.values, ScriptStore.declaredValues, scripts_store, List.flatMap_map]
  rfl

/-- **Whether a function or a variable of a name is declared** at the top level. A
variable counts only if it has a type or a value. -/
def isDeclared (p : ScriptProgram) (name : String) : Bool :=
  (p.store.functions.lookup name).isSome || (p.store.values.lookup name).isSome

theorem isDeclared_eq (p : ScriptProgram) (name : String) :
    p.isDeclared name = ((p.functions.lookup name).isSome || (p.values.lookup name).isSome) := by
  rw [isDeclared, lookup_functions, lookup_values]

/-- The first variable of a name that is declared anywhere in file number `i`. -/
def localValue? (p : ScriptProgram) (i : Nat) (name : String) : Option ValueSource :=
  match p.store.scripts[i]? with
  | some s => (s.script.nodes.filterMap (Node.value? s.number)).lookup name
  | none => none

theorem localValue?_eq (p : ScriptProgram) (i : Nat) (name : String) :
    p.localValue? i name
      = p.files[i]?.bind fun file => (file.nodes.filterMap (Node.value? i)).lookup name := by
  rw [localValue?, scripts_store, List.getElem?_map, List.getElem?_zipIdx]
  cases p.files[i]? with
  | none => rfl
  | some file =>
    rw [Option.map_some, Option.map_some, Nat.zero_add]
    rfl

/-- The variable that a name in file number `i` refers to: one of the same file,
else one of the top level. -/
def value? (p : ScriptProgram) (i : Nat) (name : String) : Option ValueSource :=
  p.localValue? i name <|> p.store.values.lookup name

theorem value?_eq (p : ScriptProgram) (i : Nat) (name : String) :
    p.value? i name = (p.localValue? i name).or (p.values.lookup name) := by
  rw [value?, lookup_values]
  exact Option.orElse_eq_or

/-! ## Types -/

/-- What the type parameters of a function stand for in a call with the given type
arguments. One that is given no argument is unknown. -/
def bindings (typeParameters : List String) (types : List Node) : TypeText.Bindings :=
  typeParameters.zipIdx.map fun (parameter, i) =>
    (parameter, ((types[i]?).bind Node.typeText?).getD "unknown")

/-- **The signature that a call resolves to.** A function without a declared return
type returns nothing. -/
def signature? (p : ScriptProgram) (call : NodeRef) : Option CallSignature :=
  match call.node.form with
  | .call callee types _ =>
    match callee.calleeName? with
    | none => none
    | some name =>
      match p.store.functions.lookup name with
      | none => none
      | some f =>
        match f.returnType.bind Node.typeText? with
        | some type => some ⟨name, TypeText.substitute type (bindings f.typeParameters types)⟩
        | none => some ⟨name, "void"⟩
  | _ => none

/-- **The signature of a call is that of the first declaration** of the function. -/
theorem signature?_eq_of_call {p : ScriptProgram} {call : NodeRef} {callee : Node}
    {types arguments : List Node} (hcall : call.node.form = .call callee types arguments) :
    p.signature? call = callee.calleeName?.bind fun name => (p.functions.lookup name).map fun f =>
      match f.returnType.bind Node.typeText? with
      | some type => ⟨name, TypeText.substitute type (bindings f.typeParameters types)⟩
      | none => ⟨name, "void"⟩ := by
  unfold signature?
  rw [hcall]
  dsimp only
  cases callee.calleeName? with
  | none => rfl
  | some name =>
    rw [Option.bind_some]
    dsimp only
    rw [lookup_functions]
    cases p.functions.lookup name with
    | none => rfl
    | some f =>
      rw [Option.map_some]
      dsimp only
      split <;> rfl

/-- **A call returns what the function declares**, its type arguments put in. -/
theorem signature?_of_lookup {p : ScriptProgram} {call : NodeRef} {callee type : Node}
    {types arguments : List Node} {name text : String} {parameters : List String}
    (hcall : call.node.form = .call callee types arguments)
    (hname : callee.calleeName? = some name)
    (hp : p.functions.lookup name = some ⟨parameters, some type⟩)
    (htype : type.form = .typeText text) :
    p.signature? call = some ⟨name, TypeText.substitute text (bindings parameters types)⟩ := by
  have htext : type.typeText? = some text := by
    unfold Node.typeText?
    rw [htype]
  rw [signature?_eq_of_call hcall, hname, Option.bind_some, hp, Option.map_some, Option.bind_some,
    htext]

/-- The type of an expression that is found in at most `hops` hops, a hop leading
from a variable to the value it starts with or into parentheses. -/
def typeWithin (p : ScriptProgram) (hops : Nat) (r : NodeRef) : Option String :=
  match r.node.form with
  | .identifier name =>
    match p.value? r.file name with
    | some (.declared type) => type.typeText?
    | some (.initialized value) =>
      match hops with
      | 0 => none
      | hops + 1 => p.typeWithin hops value
    | none => none
  | .parenthesized expression =>
    match hops with
    | 0 => none
    | hops + 1 => p.typeWithin hops ⟨r.file, expression⟩
  | .call .. => (p.signature? r).map CallSignature.returnType
  | .stringLiteral value => some (quoted value)
  | .numericLiteral text => some text
  | _ => none

/-- **The type of an expression.** -/
def typeAt? (p : ScriptProgram) (r : NodeRef) : Option String := p.typeWithin maxHops r

/-- The type argument at an index of a call. -/
def typeArgument? (call : NodeRef) (index : Nat) : Option String :=
  match call.node.form with
  | .call _ types _ => (types[index]?).bind Node.typeText?
  | _ => none

/-- The type information of a program. -/
def oracle (p : ScriptProgram) : TypeOracle NodeRef where
  returnType call := (p.signature? call).map CallSignature.returnType
  typeArgument := typeArgument?
  typeAt := p.typeAt?
  argumentOf type index := (TypeText.arguments type)[index]?

/-- **A program of scripts as a program of a host.** -/
def toHost (p : ScriptProgram) : HostProgram NodeRef where
  files := p.store.scripts.map fun s => s.script.toSource s.number
  oracle := p.oracle

theorem files_toHost (p : ScriptProgram) :
    p.toHost.files = p.files.zipIdx.map fun (file, i) => file.toSource i := by
  show p.store.scripts.map _ = _
  rw [scripts_store, List.map_map]
  rfl

end ScriptProgram

end TypeTest
